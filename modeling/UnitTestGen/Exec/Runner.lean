import UnitTestGen.Exec.Command
import UnitTestGen.Exec.Container
import UnitTestGen.Exec.Report
import UnitTestGen.Text.Utf8
import UnitTestGen.Trace.Store

/-! One evaluation cycle after the other. A plain cycle runs the tests of a crate with coverage,
merges the profiles and reads the report. A traced cycle builds the crate with trace points, runs
the tests, takes out of the population those that failed, and gives the others the coverage they
traced. A cycle that fails leaves the runner ready for the next cycle; it leaves the population as
it was unless the population could not be written back into the crate. -/

namespace UnitTestGen

/-- Where a runner stands, and the states it entered in this cycle, the last one first. -/
structure Progress where
  state : RunnerState
  visited : List RunnerState
  deriving DecidableEq

namespace Progress

def initial : Progress := ⟨.idle, []⟩

def started (p : Progress) : Progress := ⟨if p.state = .done then .idle else p.state, []⟩

def aborted (p : Progress) : Progress := { p with state := .idle }

end Progress

inductive RunStatus (γ : Type) where
  | ok (failed : List γ)
  | compilationError

abbrev Cycle (m : Type → Type) := ExceptT ExecError (StateT Progress m)

namespace Cycle

variable {m : Type → Type} [Monad m]

def file {α : Type} : Except IoFault α → Cycle m α
  | .ok a => pure a
  | .error e => throw (.io e)

def step (target : RunnerState) : Cycle m Unit := do
  let p ← getThe Progress
  if p.state.canStep target then set (Progress.mk target (target :: p.visited))
  else throw (.invalidTransition p.state target)

variable [Host m]

def launch (command : Command) : Cycle m Outcome := do
  match ← Host.run command with
  | .ok o => pure o
  | .error e => throw (.spawn command.stage command.programName e)

def mustSucceed (command : Command) : Cycle m Outcome := do
  let o ← launch command
  if o.succeeded then pure o else throw (.toolInvocation command.stage o.exitCode)

def openLog (path : String) : Cycle m Unit := do file (← Host.appendFile path ByteArray.empty)

def checkRoot (root : String) : Cycle m Unit := do
  if ← Host.isDir root then pure () else throw (.crateRoot root)

def resetLogs (c : RunnerConfig) : Cycle m Unit := do
  file (← Host.createDirs c.outputDir)
  file (← Host.writeFile c.testsLog ByteArray.empty)
  file (← Host.writeFile c.testsError ByteArray.empty)

def clearDirectory (directory : String) : Cycle m Unit := do
  file (← Host.createDirs directory)
  let names ← file (← Host.listDir directory)
  names.forM fun name => do
    let path := Path.join directory name
    if ← Host.isFile path then file (← Host.removeFile path) else pure ()

def rawProfiles (directory : String) : Cycle m (List String) := do
  let names ← file (← Host.listDir directory)
  let names := (names.filter (Path.hasExtension · "profraw")).mergeSort
  pure (names.map (Path.join directory))

/-- The report program; a relative path is seen from the working directory. -/
def reportScript (c : RunnerConfig) : Cycle m String := do
  if Path.isAbsolute c.reportScript then pure c.reportScript
  else pure (Path.join (← file (← Host.currentDir)) c.reportScript)

def plain (c : RunnerConfig) (root : String) : Cycle m CoverageSummary := do
  checkRoot root
  resetLogs c
  clearDirectory (c.coveragePath root)
  step .collecting
  openLog c.testsLog
  openLog c.testsError
  let _ ← mustSucceed (c.collectCommand root)
  step .merging
  let profiles ← rawProfiles (c.coveragePath root)
  openLog c.testsLog
  openLog c.testsError
  let _ ← mustSucceed (c.mergeCommand root profiles)
  step .reporting
  let script ← reportScript c
  openLog c.testsError
  let o ← mustSucceed (c.reportCommand root script)
  let summary ← (CoverageSummary.ofReport (Text.decodeLossy o.stdout) : Except _ _)
  step .done
  pure summary

end Cycle

section Population

variable {γ : Type} [Chromosome γ]

/-- Gives each test the coverage it traced. A trace is given once: a second test of the same id gets
none. -/
def attachTraces (traces : Traces) : List γ → List γ
  | [] => []
  | c :: rest =>
    let id := Chromosome.id c
    Chromosome.setCoverage c (traces[id]?.getD ∅) :: attachTraces (traces.erase id) rest

def failing (ids : List UInt64) (population : List γ) : List γ :=
  (population.filter fun c => ids.contains (Chromosome.id c)).map (Chromosome.setFails · true)

def surviving (ids : List UInt64) (traces : Traces) (population : List γ) : List γ :=
  attachTraces traces (population.filter fun c => !ids.contains (Chromosome.id c))

end Population

/-- The ids of the tests that a run says have failed, or none if the run says nothing about tests
and did not succeed. -/
def verdicts (o : Outcome) (output : String) : Option (List UInt64) :=
  if o.succeeded then some []
  else if hasFailedMarker output then some (failedTests output)
  else none

structure Workspace (κ σ : Type) where
  container : κ
  store : σ

abbrev TracedCycle (κ σ : Type) (m : Type → Type) := Cycle (StateT (Workspace κ σ) m)

namespace TracedCycle

variable {m : Type → Type} [Monad m] [Host m] {κ σ γ : Type} [Chromosome γ] [Container m κ γ]
  [TraceStore m σ]

def onStore {α : Type} (act : σ → m (Except StoreError α × σ)) : TracedCycle κ σ m α := do
  let w ← getThe (Workspace κ σ)
  let (r, store) ← liftM (act w.store)
  modifyThe (Workspace κ σ) fun w => { w with store }
  match r with
  | .ok a => pure a
  | .error e => throw (.store e)

def refresh : TracedCycle κ σ m (Except ExecError Unit) := do
  let w ← getThe (Workspace κ σ)
  let (r, container) ← liftM (Container.refresh (m := m) w.container)
  modifyThe (Workspace κ σ) fun w => { w with container }
  pure r

def population : TracedCycle κ σ m (List γ) := do
  let w ← getThe (Workspace κ σ)
  pure (Container.chromosomes (m := m) w.container)

def setPopulation (population : List γ) : TracedCycle κ σ m Unit :=
  modifyThe (Workspace κ σ) fun w =>
    { w with container := Container.withChromosomes (m := m) w.container population }

/-- The part of a traced cycle that leaves the population alone: the ids of the tests that failed,
with what was traced, or none if the tests did not compile. -/
def judge (c : RunnerConfig) : TracedCycle κ σ m (Option (List UInt64 × Traces)) := do
  let w ← getThe (Workspace κ σ)
  let root := Container.path (m := m) w.container
  Cycle.checkRoot root
  onStore (TraceStore.clear (m := m))
  Cycle.resetLogs c
  Cycle.step .instrumentedRun
  let w ← getThe (Workspace κ σ)
  let env := c.instrumentationEnv (Container.name (m := m) w.container) root ++
    TraceStore.env m w.store
  let build := Path.join root "build"
  Cycle.file (← Host.createDirs build)
  let built ← Cycle.launch (c.instrumentCommand root env)
  let buildLog := Path.join build ("cargo_" ++ toString (← Host.now) ++ ".log")
  Cycle.file (← Host.writeFile buildLog built.stderr)
  Cycle.openLog c.testsError
  let tested ← Cycle.launch (c.tracedTestCommand root env)
  let output := Text.decodeLossy tested.stdout
  let testLog := Path.join build (toString (← Host.now) ++ ".log")
  Cycle.file (← Host.writeFile testLog output.toUTF8)
  match verdicts tested output with
  | none => pure none
  | some ids =>
    let traces ← onStore (TraceStore.drain (m := m))
    pure (some (ids, traces))

/-- Takes the failed tests out of the population, gives the others what they traced and writes these
into the crate. If that fails, the failed ones come back behind the others. -/
def settle (ids : List UInt64) (traces : Traces) : TracedCycle κ σ m (List γ) := do
  let everyone ← population
  let failed := failing ids everyone
  setPopulation (surviving ids traces everyone)
  match ← refresh with
  | .error e =>
    setPopulation ((← population) ++ failed)
    throw e
  | .ok () =>
    Cycle.step .done
    pure failed

def traced (c : RunnerConfig) : TracedCycle κ σ m (RunStatus γ) := do
  match ← judge c with
  | none => pure .compilationError
  | some (ids, traces) => pure (.ok (← settle ids traces))

end TracedCycle

structure Runner where
  config : RunnerConfig
  progress : Progress

namespace Runner

def new (config : RunnerConfig) : Runner := ⟨config, .initial⟩

def state (r : Runner) : RunnerState := r.progress.state

variable {m : Type → Type} [Monad m] [Host m]

def runAt (r : Runner) (root : String) : m (Except ExecError CoverageSummary × Runner) := do
  let (result, p) ← ((Cycle.plain r.config root).run.run r.progress.started : m _)
  let p := match result with
    | .ok _ => p
    | .error _ => p.aborted
  pure (result, { r with progress := p })

variable {κ σ γ : Type} [Chromosome γ] [Container m κ γ] [TraceStore m σ]

def run (r : Runner) (container : κ) : m (Except ExecError CoverageSummary × Runner) :=
  r.runAt (Container.path (m := m) container)

def runTraced (r : Runner) (container : κ) (store : σ) :
    m (Except ExecError (RunStatus γ) × Runner × Workspace κ σ) := do
  let ((result, p), w) ←
    ((TracedCycle.traced r.config : TracedCycle κ σ m (RunStatus γ)).run.run r.progress.started).run
      ⟨container, store⟩
  let p := match result with
    | .ok (.ok _) => p
    | .ok .compilationError | .error _ => p.aborted
  pure (result, { r with progress := p }, w)

end Runner
end UnitTestGen
