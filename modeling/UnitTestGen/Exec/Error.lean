import UnitTestGen.Trace.Fact

/-! What can go wrong in a cycle, each cause with its explanation and, where it belongs to one, the
stage of the cycle. -/

namespace UnitTestGen

inductive IoFault where
  | notFound
  | permissionDenied
  | alreadyExists
  | invalidData
  | notADirectory
  | isADirectory
  /-- A text holds a character that cannot be given to the system. -/
  | invalidInput
  | invalidFilename
  | unsupported
  | other
  deriving DecidableEq

inductive Stage where
  | collect
  | merge
  | report
  | instrument
  | tracedTest
  deriving DecidableEq

namespace Stage

def text : Stage → String
  | collect => "collect"
  | merge => "merge"
  | report => "report"
  | instrument => "instrument"
  | tracedTest => "traced-test"

end Stage

inductive RunnerState where
  | idle
  | collecting
  | merging
  | reporting
  | instrumentedRun
  | done
  deriving DecidableEq

namespace RunnerState

def name : RunnerState → String
  | idle => "Idle"
  | collecting => "Collecting"
  | merging => "Merging"
  | reporting => "Reporting"
  | instrumentedRun => "InstrumentedRun"
  | done => "Done"

def canStep : RunnerState → RunnerState → Bool
  | idle, collecting => true
  | collecting, merging => true
  | merging, reporting => true
  | reporting, done => true
  | idle, instrumentedRun => true
  | instrumentedRun, done => true
  | _, _ => false

end RunnerState

inductive StoreError where
  | io (fault : IoFault)
  | trace (error : TraceError)
  deriving DecidableEq

inductive ExecError where
  /-- A tool ended with an exit code other than zero, or without one. -/
  | toolInvocation (stage : Stage) (exitCode : Option Int)
  | spawn (stage : Stage) (program : String) (fault : IoFault)
  | reportFormat (field value : String)
  | reportMissing (field : String)
  | crateRoot (path : String)
  | invalidTransition (origin target : RunnerState)
  | store (error : StoreError)
  | io (fault : IoFault)
  | json
  deriving DecidableEq

namespace ExecError

def message : ExecError → Option String
  | toolInvocation stage code =>
    let code := match code with
      | some c => "Some(" ++ toString c ++ ")"
      | none => "None"
    some (stage.text ++ " stage failed with exit code " ++ code)
  | reportFormat field value => some ("unsupported encoding for " ++ field ++ ": " ++ value)
  | reportMissing field => some ("coverage report has no " ++ field)
  | crateRoot path => some ("crate root not found: " ++ path)
  | invalidTransition origin target =>
    some ("invalid pipeline transition from " ++ origin.name ++ " to " ++ target.name)
  | store (.trace e) => some e.message
  | store (.io _) | spawn _ _ _ | io _ | json => none

def stage : ExecError → Option Stage
  | toolInvocation stage _ | spawn stage _ _ => some stage
  | reportFormat _ _ | reportMissing _ => some .report
  | _ => none

end ExecError
end UnitTestGen
