import UnitTestGen.Proofs.Exec.Readiness

/-! The programs of a plain cycle. It may end anywhere between two of them, for a reason that
belongs to no stage; otherwise a program that was not started or did not succeed is the last one,
and the cycle ends with what became of it. So the end of a cycle can be read off the programs it
ran, and those off its journal. -/

namespace UnitTestGen

abbrev ProgramRun := Command × Except IoFault Outcome

def Event.ofRun (run : ProgramRun) : Event := .ran run.1 run.2

section Recording

variable {m n : Type → Type} {S S' : Type} [Monad m] [Monad n] [Stateful m S] [Stateful n S']

structure Host.RecordsListings [Host m] [Host n] (j : S → List Event → S') : Prop
    extends Host.Records (m := m) (n := n) j where
  removeFile (path : String) :
    Unrecorded j (Host.removeFile (m := n) path) (Host.removeFile (m := m) path)
  listDir (path : String) : Unrecorded j (Host.listDir (m := n) path) (Host.listDir (m := m) path)
  isFile (path : String) : Unrecorded j (Host.isFile (m := n) path) (Host.isFile (m := m) path)
  currentDir : Unrecorded j (Host.currentDir (m := n)) (Host.currentDir (m := m))

end Recording

theorem Journaled.recordsListings {W : Type} [Host (StateM W)] :
    Host.RecordsListings (m := StateM W) (n := StateM (Journaled W)) Journaled.mk where
  writeFile _ _ _ _ := rfl
  appendFile _ _ _ _ := rfl
  createDirs _ _ _ := rfl
  isDir _ _ _ := rfl
  now _ _ := rfl
  run _ _ _ := rfl
  removeFile _ _ _ := rfl
  listDir _ _ _ := rfl
  isFile _ _ _ := rfl
  currentDir _ _ := rfl

/-- How the programs of the stages to come go with the end of a cycle, which after the last of them
is what that one leads to. -/
inductive Staged {α : Type} (Serves : Stage → Command → Prop)
    (Finish : Outcome → Except ExecError α → Prop) :
    List Stage → List ProgramRun → Except ExecError α → Prop where
  | stopped {stages : List Stage} {e : ExecError} (hstage : e.stage = none) :
      Staged Serves Finish stages [] (.error e)
  | unstarted {stage : Stage} {stages : List Stage} {command : Command}
      (hserves : Serves stage command) (fault : IoFault) :
      Staged Serves Finish (stage :: stages) [(command, .error fault)]
        (.error (.spawn command.stage command.programName fault))
  | failed {stage : Stage} {stages : List Stage} {command : Command}
      (hserves : Serves stage command) {o : Outcome} (hexit : o.exitCode ≠ some 0) :
      Staged Serves Finish (stage :: stages) [(command, .ok o)]
        (.error (.toolInvocation command.stage o.exitCode))
  | finished {stage : Stage} {command : Command} (hserves : Serves stage command) {o : Outcome}
      (hexit : o.exitCode = some 0) {result : Except ExecError α} (hfinish : Finish o result) :
      Staged Serves Finish [stage] [(command, .ok o)] result
  | passed {stage next : Stage} {stages : List Stage} {command : Command}
      (hserves : Serves stage command) {o : Outcome} (hexit : o.exitCode = some 0)
      {runs : List ProgramRun} {result : Except ExecError α}
      (hrest : Staged Serves Finish (next :: stages) runs result) :
      Staged Serves Finish (stage :: next :: stages) ((command, .ok o) :: runs) result

namespace Staged

variable {α : Type} {Serves : Stage → Command → Prop} {Finish : Outcome → Except ExecError α → Prop}
  {stages : List Stage} {runs : List ProgramRun} {result : Except ExecError α}

theorem stages_prefix (h : Staged Serves Finish stages runs result)
    (hserves : ∀ stage command, Serves stage command → command.stage = stage) :
    runs.map (·.1.stage) <+: stages := by
  induction h with
  | stopped _ => exact List.nil_prefix
  | unstarted hs _ | failed hs _ | finished hs _ _ =>
    exact List.cons_prefix_cons.2 ⟨hserves _ _ hs, List.nil_prefix⟩
  | passed hs _ _ ih => exact List.cons_prefix_cons.2 ⟨hserves _ _ hs, ih⟩

theorem serves (h : Staged Serves Finish stages runs result)
    (hserves : ∀ stage command, Serves stage command → command.stage = stage) :
    ∀ run ∈ runs, Serves run.1.stage run.1 := by
  induction h with
  | stopped _ => exact List.forall_mem_nil _
  | unstarted hs _ | failed hs _ | finished hs _ _ =>
    intro run hrun
    obtain rfl := List.mem_singleton.1 hrun
    rwa [hserves _ _ hs]
  | passed hs _ _ ih =>
    refine List.forall_mem_cons.2 ⟨?_, ih⟩
    rwa [hserves _ _ hs]

theorem exitCode_of_mem_dropLast (h : Staged Serves Finish stages runs result) :
    ∀ run ∈ runs.dropLast, ∃ o, run.2 = .ok o ∧ o.exitCode = some 0 := by
  induction h with
  | stopped _ | unstarted _ _ | failed _ _ | finished _ _ _ => exact List.forall_mem_nil _
  | @passed _ _ _ _ _ o hexit runs _ _ ih =>
    intro run hrun
    cases runs with
    | nil => exact nomatch hrun
    | cons next rest =>
      rcases List.mem_cons.1 hrun with rfl | hrun
      · exact ⟨o, rfl, hexit⟩
      · exact ih run hrun

theorem of_failed (h : Staged Serves Finish stages runs result) {command : Command} {o : Outcome}
    (hrun : (command, .ok o) ∈ runs) (hexit : o.exitCode ≠ some 0) :
    result = .error (.toolInvocation command.stage o.exitCode) ∧
      runs.getLast? = some (command, .ok o) := by
  induction h with
  | stopped _ => exact nomatch hrun
  | unstarted _ _ => simp at hrun
  | failed _ _ =>
    obtain ⟨rfl, rfl⟩ : command = _ ∧ o = _ := by simpa using hrun
    exact ⟨rfl, rfl⟩
  | finished _ hzero _ =>
    obtain ⟨-, rfl⟩ : command = _ ∧ o = _ := by simpa using hrun
    exact absurd hzero hexit
  | passed _ hzero _ ih =>
    rcases List.mem_cons.1 hrun with heq | hrun
    · obtain ⟨-, rfl⟩ : command = _ ∧ o = _ := by simpa using heq
      exact absurd hzero hexit
    · obtain ⟨hresult, hlast⟩ := ih hrun
      exact ⟨hresult, by rw [List.getLast?_cons, hlast, Option.getD_some]⟩

theorem of_unstarted (h : Staged Serves Finish stages runs result) {command : Command}
    {fault : IoFault} (hrun : (command, .error fault) ∈ runs) :
    result = .error (.spawn command.stage command.programName fault) ∧
      runs.getLast? = some (command, .error fault) := by
  induction h with
  | stopped _ => exact nomatch hrun
  | unstarted _ _ =>
    obtain ⟨rfl, rfl⟩ : command = _ ∧ fault = _ := by simpa using hrun
    exact ⟨rfl, rfl⟩
  | failed _ _ | finished _ _ _ => simp at hrun
  | passed _ _ _ ih =>
    obtain ⟨hresult, hlast⟩ := ih (by simpa using hrun)
    exact ⟨hresult, by rw [List.getLast?_cons, hlast, Option.getD_some]⟩

theorem last_stage (h : Staged Serves Finish stages runs result)
    (hserves : ∀ stage command, Serves stage command → command.stage = stage)
    (hfinish : ∀ o e stage, Finish o (.error e) → e.stage = some stage →
      stages.getLast? = some stage)
    {e : ExecError} (hresult : result = .error e) {stage : Stage} (hstage : e.stage = some stage) :
    ∃ run, runs.getLast? = some run ∧ run.1.stage = stage := by
  induction h with
  | stopped hnone =>
    obtain rfl := Except.error.inj hresult
    exact nomatch hnone.symm.trans hstage
  | unstarted _ _ | failed _ _ =>
    obtain rfl := Except.error.inj hresult
    exact ⟨_, rfl, Option.some.inj hstage⟩
  | finished hs _ hend =>
    subst hresult
    exact ⟨_, rfl, (hserves _ _ hs).trans (Option.some.inj (hfinish _ _ _ hend hstage))⟩
  | passed _ _ _ ih =>
    obtain ⟨run, hlast, hrun⟩ := ih (fun o e s hend he => by
      rw [← hfinish o e s hend he, List.getLast?_cons_cons]) hresult
    exact ⟨run, by rw [List.getLast?_cons, hlast, Option.getD_some], hrun⟩

theorem exitCode_of_stage_none (h : Staged Serves Finish stages runs result) {e : ExecError}
    (hresult : result = .error e) (hstage : e.stage = none) :
    ∀ run ∈ runs, ∃ o, run.2 = .ok o ∧ o.exitCode = some 0 := by
  induction h with
  | stopped _ => exact List.forall_mem_nil _
  | unstarted _ _ | failed _ _ =>
    obtain rfl := Except.error.inj hresult
    exact nomatch hstage
  | finished _ hexit _ =>
    intro run hrun
    obtain rfl := List.mem_singleton.1 hrun
    exact ⟨_, rfl, hexit⟩
  | passed _ hexit _ ih => exact List.forall_mem_cons.2 ⟨⟨_, rfl, hexit⟩, ih hresult⟩

end Staged

namespace Cycle

variable {m n : Type → Type} {S S' : Type} [Monad m] [Monad n] [Stateful m S] [Stateful n S']
  {α : Type} {j : S → List Event → S'} {s : Progress × S} {Serves : Stage → Command → Prop}
  {Finish : Outcome → Except ExecError α → Prop} {stage : Stage} {stages : List Stage}
  {f : Outcome → Cycle n α} {g : Outcome → Cycle m α}

def RunsStages (Serves : Stage → Command → Prop) (Finish : Outcome → Except ExecError α → Prop)
    (stages : List Stage) (r : Except ExecError α) (new : List Event) : Prop :=
  ∃ runs, new = runs.map Event.ofRun ∧ Staged Serves Finish stages runs r

theorem RunsStages.stopped {e : ExecError} (he : e.stage = none) :
    RunsStages Serves Finish stages (.error e) [] :=
  ⟨[], rfl, .stopped he⟩

section Programs

variable [Host m] [Host n] (h : Host.Records (m := m) (n := n) j)
include h

theorem endsAt_mustSucceed (command : Command) :
    EndsAt j s (mustSucceed command : Cycle n Outcome) (mustSucceed command : Cycle m Outcome)
      fun r new => match r with
        | .ok o => new = [.ran command (.ok o)] ∧ o.exitCode = some 0
        | .error e => (∃ fault, new = [.ran command (.error fault)] ∧
              e = .spawn command.stage command.programName fault) ∨
            ∃ o, new = [.ran command (.ok o)] ∧ o.exitCode ≠ some 0 ∧
              e = .toolInvocation command.stage o.exitCode := by
  refine (endsAt_launch h command).bind (fun o s' new _ hnew => ?_) fun e new hnew => ?_
  · obtain ⟨answer, rfl, ho⟩ := hnew
    obtain rfl : answer = .ok o := by
      cases answer with
      | ok o' => exact congrArg Except.ok (Except.ok.inj ho).symm
      | error e => exact nomatch ho
    by_cases hexit : o.exitCode = some 0
    · have hsucceeded : o.succeeded = true := beq_iff_eq.2 hexit
      simp only [hsucceeded, if_true]
      exact .pure ⟨rfl, hexit⟩
    · have hfailed : o.succeeded = false := beq_eq_false_iff_ne.2 hexit
      simp only [hfailed, Bool.false_eq_true, if_false]
      exact .throw (.inr ⟨o, rfl, hexit, rfl⟩)
  · obtain ⟨answer, rfl, he⟩ := hnew
    cases answer with
    | ok o => exact nomatch he
    | error fault => exact .inl ⟨fault, rfl, Except.error.inj he⟩

theorem endsAt_program {command : Command} (hserves : Serves stage command)
    (hrest : ∀ o s', o.exitCode = some 0 →
      exec (mustSucceed command : Cycle m Outcome) s = (.ok o, s') →
      EndsAt j s' (f o) (g o) fun r more =>
        RunsStages Serves Finish (stage :: stages) r (.ran command (.ok o) :: more)) :
    EndsAt j s (mustSucceed command >>= f) (mustSucceed command >>= g)
      (RunsStages Serves Finish (stage :: stages)) := by
  refine (endsAt_mustSucceed h command).bind (fun o s' new hend hnew => ?_) fun e new hnew => ?_
  · obtain ⟨rfl, hexit⟩ := hnew
    exact hrest o s' hexit hend
  · rcases hnew with ⟨fault, rfl, rfl⟩ | ⟨o, rfl, hexit, rfl⟩
    · exact ⟨[(command, .error fault)], rfl, .unstarted hserves fault⟩
    · exact ⟨[(command, .ok o)], rfl, .failed hserves hexit⟩

theorem endsAt_stage {next : Stage} {command : Command} (hserves : Serves stage command)
    (hrest : ∀ o s', exec (mustSucceed command : Cycle m Outcome) s = (.ok o, s') →
      EndsAt j s' (f o) (g o) (RunsStages Serves Finish (next :: stages))) :
    EndsAt j s (mustSucceed command >>= f) (mustSucceed command >>= g)
      (RunsStages Serves Finish (stage :: next :: stages)) := by
  refine endsAt_program h hserves fun o s' hexit hend => (hrest o s' hend).mono ?_
  rintro r _ ⟨runs, rfl, hruns⟩
  exact ⟨(command, .ok o) :: runs, rfl, .passed hserves hexit hruns⟩

theorem endsAt_lastStage {command : Command} (hserves : Serves stage command)
    (hrest : ∀ o s', exec (mustSucceed command : Cycle m Outcome) s = (.ok o, s') →
      EndsAt j s' (f o) (g o) fun r new => new = [] ∧ Finish o r) :
    EndsAt j s (mustSucceed command >>= f) (mustSucceed command >>= g)
      (RunsStages Serves Finish [stage]) := by
  refine endsAt_program h hserves fun o s' hexit hend => (hrest o s' hend).mono ?_
  rintro r _ ⟨rfl, hfinish⟩
  exact ⟨[(command, .ok o)], rfl, .finished hserves hexit hfinish⟩

end Programs

theorem Walks.state_eq {origin : RunnerState} {β : Type}
    {y : Cycle m β} (h : Walks origin [] y) (hs : s.1.state = origin) {b : β}
    {s' : Progress × S} (hend : exec y s = (.ok b, s')) : s'.1.state = origin := by
  have hwalk := h s.1 s.2 hs
  rw [show (s.1, s.2) = s from rfl, hend] at hwalk
  exact (congrArg Progress.state hwalk).trans hs

theorem exec_finish (r : Except ExecError α) (hs : s.1.state = .reporting) :
    exec (do let a ← (r : Except _ _); step .done; pure a : Cycle m α) s =
      (r, match r with
        | .ok _ => s.1.along [.done]
        | .error _ => s.1, s.2) := by
  obtain ⟨p, s⟩ := s
  have hp : p.state = .reporting := hs
  rw [exec_bind, exec_except]
  cases r with
  | error e => rfl
  | ok a =>
    dsimp only
    rw [exec_bind, exec_step, hp]
    exact exec_pure a _

section Listings

variable [Host m] [Host n] (h : Host.RecordsListings (m := m) (n := n) j)
include h

theorem quietAt_clearDirectory (directory : String) :
    EndsAt j s (clearDirectory directory : Cycle n Unit) (clearDirectory directory : Cycle m Unit)
      Quiet := by
  refine .quiet_after (.lift (h.createDirs _)) fun made _ => ?_
  refine .quiet_after (quietAt_file made) fun _ _ => ?_
  refine .quiet_after (.lift (h.listDir _)) fun listed _ => ?_
  refine .quiet_after (quietAt_file listed) fun names s' => ?_
  induction names generalizing s' with
  | nil => exact .quiet_pure ()
  | cons name names ih =>
    refine .quiet_after (.quiet_after (.lift (h.isFile _)) fun isFile _ => ?_) fun _ s' => ih s'
    cases isFile with
    | true => exact .quiet_after (.lift (h.removeFile _)) fun removed _ => quietAt_file removed
    | false => exact .quiet_pure ()

theorem quietAt_rawProfiles (directory : String) :
    EndsAt j s (rawProfiles directory : Cycle n (List String))
      (rawProfiles directory : Cycle m (List String)) Quiet :=
  .quiet_after (.lift (h.listDir _)) fun listed _ =>
    .quiet_after (quietAt_file listed) fun _ _ => .quiet_pure _

theorem quietAt_reportScript (c : RunnerConfig) :
    EndsAt j s (reportScript c : Cycle n String) (reportScript c : Cycle m String) Quiet := by
  unfold reportScript
  split
  · exact .quiet_pure _
  · exact .quiet_after (.lift h.currentDir) fun d _ =>
      .quiet_after (quietAt_file d) fun _ _ => .quiet_pure _

end Listings
end Cycle

namespace RunnerConfig

variable (c : RunnerConfig) (root : String)

def Serves (Found : List String → Prop) : Stage → Command → Prop
  | .collect, command => command = c.collectCommand root
  | .merge, command => ∃ profiles, Found profiles ∧ command = c.mergeCommand root profiles
  | .report, command => ∃ script, command = c.reportCommand root script
  | .instrument, _ | .tracedTest, _ => False

theorem Serves.stage_eq {c : RunnerConfig} {root : String} {Found : List String → Prop} :
    ∀ stage command, c.Serves root Found stage command → command.stage = stage
  | .collect, _, rfl => rfl
  | .merge, _, ⟨_, _, rfl⟩ => rfl
  | .report, _, ⟨_, rfl⟩ => rfl

end RunnerConfig

def Outcome.Reports (o : Outcome) (result : Except ExecError CoverageSummary) : Prop :=
  result = CoverageSummary.ofReport (Text.decodeLossy o.stdout)

namespace Cycle

variable {m n : Type → Type} {S S' : Type} [Monad m] [Monad n] [Stateful m S] [Stateful n S']
  {j : S → List Event → S'} {s : Progress × S} [Host m] [Host n]

def prepared (c : RunnerConfig) (root : String) : Cycle m Unit := do
  checkRoot root
  resetLogs c
  clearDirectory (c.coveragePath root)
  step .collecting
  openLog c.testsLog
  openLog c.testsError

def Finds (c : RunnerConfig) (root : String) (s : Progress × S) (profiles : List String) : Prop :=
  ∃ before o after s', exec (prepared c root : Cycle m Unit) s = (.ok (), before) ∧
    exec (mustSucceed (c.collectCommand root) : Cycle m Outcome) before = (.ok o, after) ∧
    exec (do step .merging; rawProfiles (c.coveragePath root) : Cycle m (List String)) after =
      (.ok profiles, s')

theorem endsAt_report (h : Host.RecordsListings (m := m) (n := n) j) (c : RunnerConfig)
    (root : String) {Found : List String → Prop} (hs : s.1.state = .reporting) :
    EndsAt j s
      (do
        let script ← reportScript c
        openLog c.testsError
        let o ← mustSucceed (c.reportCommand root script)
        let summary ← (CoverageSummary.ofReport (Text.decodeLossy o.stdout) : Except _ _)
        step .done
        pure summary : Cycle n CoverageSummary)
      (do
        let script ← reportScript c
        openLog c.testsError
        let o ← mustSucceed (c.reportCommand root script)
        let summary ← (CoverageSummary.ofReport (Text.decodeLossy o.stdout) : Except _ _)
        step .done
        pure summary : Cycle m CoverageSummary)
      (RunsStages (c.Serves root Found) Outcome.Reports [.report]) := by
  have hstopped (stages : List Stage) (e : ExecError) (he : e.stage = none) :
      RunsStages (c.Serves root Found) Outcome.Reports stages (.error e) [] := .stopped he
  refine .after (quietAt_reportScript h c) (fun script s₁ hscript => ?_) (hstopped _)
  have h₁ : s₁.1.state = .reporting := (walks_reportScript c).state_eq hs hscript
  refine .after (quietAt_openLog h.toRecords _) (fun _ s₂ hopened => ?_) (hstopped _)
  have h₂ : s₂.1.state = .reporting := (walks_openLog c.testsError).state_eq h₁ hopened
  refine endsAt_lastStage h.toRecords ⟨script, rfl⟩ fun o s₃ hended => ?_
  have h₃ : s₃.1.state = .reporting := (walks_mustSucceed _).state_eq h₂ hended
  refine .of_unchanged (fun es => ?_) ⟨rfl, ?_⟩
  · rw [exec_finish (s := (s₃.1, j s₃.2 es)) _ h₃, exec_finish (s := s₃) _ h₃]
  · rw [exec_finish _ h₃]
    rfl

theorem endsAt_plain (h : Host.RecordsListings (m := m) (n := n) j) (c : RunnerConfig)
    (root : String) :
    EndsAt j s (plain c root : Cycle n CoverageSummary) (plain c root : Cycle m CoverageSummary)
      (RunsStages (c.Serves root (Finds (m := m) c root s)) Outcome.Reports
        [.collect, .merge, .report]) := by
  have hstopped (stages : List Stage) (e : ExecError) (he : e.stage = none) :
      RunsStages (c.Serves root (Finds (m := m) c root s)) Outcome.Reports stages (.error e) [] :=
    .stopped he
  unfold plain
  refine .after (quietAt_checkRoot h.toRecords root) (fun _ s₁ h₁ => ?_) (hstopped _)
  refine .after (quietAt_resetLogs h.toRecords c) (fun _ s₂ h₂ => ?_) (hstopped _)
  refine .after (quietAt_clearDirectory h _) (fun _ s₃ h₃ => ?_) (hstopped _)
  refine .after (quietAt_step .collecting) (fun _ s₄ h₄ => ?_) (hstopped _)
  refine .after (quietAt_openLog h.toRecords _) (fun _ s₅ h₅ => ?_) (hstopped _)
  refine .after (quietAt_openLog h.toRecords _) (fun _ before h₆ => ?_) (hstopped _)
  have hprepared : exec (prepared c root : Cycle m Unit) s = (.ok (), before) := by
    unfold prepared
    rw [exec_bind_of_ok h₁, exec_bind_of_ok h₂, exec_bind_of_ok h₃, exec_bind_of_ok h₄,
      exec_bind_of_ok h₅]
    exact h₆
  refine endsAt_stage h.toRecords rfl fun o after hcollected => ?_
  refine .after (quietAt_step .merging) (fun _ s₈ h₈ => ?_) (hstopped _)
  refine .after (quietAt_rawProfiles h _) (fun profiles s₉ h₉ => ?_) (hstopped _)
  have hfound : Finds (m := m) c root s profiles := by
    refine ⟨before, o, after, s₉, hprepared, hcollected, ?_⟩
    rw [exec_bind_of_ok h₈]
    exact h₉
  refine .after (quietAt_openLog h.toRecords _) (fun _ _ _ => ?_) (hstopped _)
  refine .after (quietAt_openLog h.toRecords _) (fun _ _ _ => ?_) (hstopped _)
  refine endsAt_stage h.toRecords ⟨profiles, hfound, rfl⟩ fun _ s₁₂ _ => ?_
  refine .after (quietAt_step .reporting) (fun _ s₁₃ hstep => ?_) (hstopped _)
  have hs : s₁₃.1.state = .reporting := by
    obtain ⟨p, s⟩ := s₁₂
    have henters : Enters (fun _ : S => ()) .reporting (step .reporting : Cycle m Unit) :=
      enters_step .reporting
    have hstate := (henters p s).2 () (congrArg Prod.fst hstep)
    rwa [hstep] at hstate
  exact endsAt_report h c root hs

end Cycle

structure InStageOrder (c : RunnerConfig) (root : String) (Found : List String → Prop)
    (runs : List ProgramRun) (result : Except ExecError CoverageSummary) : Prop where
  stages_prefix : runs.map (·.1.stage) <+: [.collect, .merge, .report]
  serves : ∀ run ∈ runs, c.Serves root Found run.1.stage run.1
  exitCode_of_mem_dropLast : ∀ run ∈ runs.dropLast, ∃ o, run.2 = .ok o ∧ o.exitCode = some 0
  ok_iff : ∀ summary, result = .ok summary ↔ ∃ profiles script collected merged reported,
    runs = [(c.collectCommand root, .ok collected), (c.mergeCommand root profiles, .ok merged),
      (c.reportCommand root script, .ok reported)] ∧
    collected.exitCode = some 0 ∧ merged.exitCode = some 0 ∧ reported.exitCode = some 0 ∧
    CoverageSummary.ofReport (Text.decodeLossy reported.stdout) = .ok summary
  of_failed : ∀ command o, (command, .ok o) ∈ runs → o.exitCode ≠ some 0 →
    result = .error (.toolInvocation command.stage o.exitCode) ∧
      runs.getLast? = some (command, .ok o)
  of_unstarted : ∀ command fault, (command, .error fault) ∈ runs →
    result = .error (.spawn command.stage command.programName fault) ∧
      runs.getLast? = some (command, .error fault)
  last_stage : ∀ e stage, result = .error e → e.stage = some stage →
    ∃ run, runs.getLast? = some run ∧ run.1.stage = stage
  exitCode_of_stage_none : ∀ e, result = .error e → e.stage = none →
    ∀ run ∈ runs, ∃ o, run.2 = .ok o ∧ o.exitCode = some 0

theorem Outcome.Reports.stage_eq {o : Outcome} {e : ExecError} {stage : Stage}
    (h : o.Reports (.error e)) (hstage : e.stage = some stage) : stage = .report := by
  rcases CoverageSummary.exists_of_ofReport_error h.symm with rfl | ⟨field, rfl | ⟨value, rfl⟩⟩
  · exact nomatch hstage
  · exact (Option.some.inj hstage).symm
  · exact (Option.some.inj hstage).symm

theorem Staged.inStageOrder {c : RunnerConfig} {root : String} {Found : List String → Prop}
    {runs : List ProgramRun} {result : Except ExecError CoverageSummary}
    (h : Staged (c.Serves root Found) Outcome.Reports [.collect, .merge, .report] runs result) :
    InStageOrder c root Found runs result where
  stages_prefix := h.stages_prefix RunnerConfig.Serves.stage_eq
  serves := h.serves RunnerConfig.Serves.stage_eq
  exitCode_of_mem_dropLast := h.exitCode_of_mem_dropLast
  ok_iff summary := by
    constructor
    · rintro rfl
      cases h with
      | passed hcollect hcollected h => cases h with
        | passed hmerge hmerged h => cases h with
          | finished hreport hreported hfinish =>
            obtain ⟨profiles, -, rfl⟩ := hmerge
            obtain ⟨script, rfl⟩ := hreport
            obtain rfl : _ = c.collectCommand root := hcollect
            exact ⟨profiles, script, _, _, _, rfl, hcollected, hmerged, hreported, hfinish.symm⟩
    · rintro ⟨profiles, script, collected, merged, reported, rfl, hcollected, hmerged, hreported,
        hreport⟩
      cases h with
      | passed _ _ h => cases h with
        | passed _ _ h => cases h with
          | failed _ hexit => exact absurd hreported hexit
          | finished _ _ hfinish => exact Eq.trans hfinish hreport
  of_failed _ _ := h.of_failed
  of_unstarted _ _ := h.of_unstarted
  last_stage _ _ hresult hstage :=
    have hfinish (o : Outcome) (e : ExecError) (stage : Stage) (hreport : o.Reports (.error e))
        (hstage : e.stage = some stage) :
        [Stage.collect, .merge, .report].getLast? = some stage := by
      rw [hreport.stage_eq hstage]
      rfl
    h.last_stage RunnerConfig.Serves.stage_eq hfinish hresult hstage
  exitCode_of_stage_none _ := h.exitCode_of_stage_none

namespace Runner

variable {W : Type} [Host (StateM W)] (r : Runner) (root : String) (w : W)

def plainJournal : List Event := ((r.runAt root : StateM (Journaled W) _).run ⟨w, []⟩).2.events

/-- A plain cycle with a journal ends as it does without one. -/
theorem runAt_journaled :
    (r.runAt root : StateM (Journaled W) _).run ⟨w, []⟩ =
      (((r.runAt root : StateM W _).run w).1,
        ⟨((r.runAt root : StateM W _).run w).2, r.plainJournal root w⟩) := by
  obtain ⟨new, hx, -⟩ := Cycle.endsAt_plain (s := (r.progress.started, w))
    (Journaled.recordsListings (W := W)) r.config root
  replace hx := hx []
  unfold plainJournal
  rw [runAt_eq (W := Journaled W), runAt_eq (W := W)]
  dsimp only
  rw [hx]

theorem staged_plain :
    ∃ runs : List ProgramRun, r.plainJournal root w = runs.map Event.ofRun ∧
      Staged (r.config.Serves root
          (Cycle.Finds (m := StateM W) r.config root (r.progress.started, w)))
        Outcome.Reports [.collect, .merge, .report] runs
        ((r.runAt root : StateM W _).run w).1.1 := by
  obtain ⟨new, hx, hruns⟩ := Cycle.endsAt_plain (s := (r.progress.started, w))
    (Journaled.recordsListings (W := W)) r.config root
  have hjournal : r.plainJournal root w = new := by
    unfold plainJournal
    rw [runAt_eq (W := Journaled W)]
    exact congrArg (fun out => out.2.2.events) (hx [])
  obtain ⟨runs, rfl, hstaged⟩ := hruns
  exact ⟨runs, hjournal, hstaged⟩

/-- A plain cycle runs the tests, merges the profiles then found and reads the report, each only
after the one before exited with zero. It gives the coverage in the report if all three did, and
ends with what became of the last program if that failed or was not started. -/
theorem stage_order_exact :
    ∃ runs : List ProgramRun, r.plainJournal root w = runs.map Event.ofRun ∧
      InStageOrder r.config root
        (Cycle.Finds (m := StateM W) r.config root (r.progress.started, w)) runs
        ((r.runAt root : StateM W _).run w).1.1 := by
  obtain ⟨runs, hjournal, hstaged⟩ := staged_plain r root w
  exact ⟨runs, hjournal, hstaged.inStageOrder⟩

-- tests that exit with 101 end the cycle
open OneFailure in
example : (((Runner.new {}).runAt "crate" : StateM OneFailure _).run world).1.1 =
      .error (.toolInvocation .collect (some 101)) ∧
    ((Runner.new {}).plainJournal "crate" world).length = 1 :=
  ⟨rfl, rfl⟩

end Runner
end UnitTestGen
