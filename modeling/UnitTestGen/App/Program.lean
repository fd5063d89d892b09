import UnitTestGen.App.Arguments
import UnitTestGen.App.Commands
import UnitTestGen.Json.Printer

/-! The program: it reads its command line, its configuration and its input, and gives an exit code
with a report. -/

namespace UnitTestGen

inductive Ending where
  | report (j : Json)
  | failed (f : Failure)
  | usage

namespace Ending

def exitCode : Ending → Nat
  | report _ => 0
  | failed _ => 1
  | usage => 2

def ofExcept {α : Type} (toJson : α → Json) : Except Failure α → Ending
  | .ok a => .report (toJson a)
  | .error f => .failed f

def output : Ending → Option String
  | report j => some (j.indented ++ "\n")
  | failed _ | usage => none

end Ending

namespace Program

def usageText : String :=
  "usage: [--config FILE] coverage [--features LIST] [--output-dir DIR] [--run N] CRATE_DIR\n" ++
  "       [--config FILE] decode TRACE_FILE\n" ++
  "       [--config FILE] types [--seed N] CALLABLES"

variable {m : Type → Type} [Monad m] [Host m]

def perform (config : AppConfig) : Request → m Ending
  | .coverage crateDir features outputDir run => do
    let runner := { config.runner with
      features := features.getD config.runner.features
      outputDir := outputDir.getD config.runner.outputDir
      run := run.getD config.runner.run }
    pure (.ofExcept CoverageSummary.toJson (← Commands.coverage { config with runner } crateDir))
  | .decode traceFile => do
    pure (.ofExcept (fun ts => .arr (ts.map TestTrace.toJson)) (← Commands.decode traceFile))
  | .types callablesFile seed => do
    pure (.ofExcept TypesReport.toJson (← Commands.types callablesFile (seed.getD config.seed)))

def run (args : List String) (lookup : RunnerConfig.Lookup) : m Ending := do
  match Arguments.ofList args with
  | none => pure .usage
  | some a =>
    match ← AppConfig.load a.config lookup with
    | .error f => pure (.failed f)
    | .ok config => perform config a.request

end Program
end UnitTestGen
