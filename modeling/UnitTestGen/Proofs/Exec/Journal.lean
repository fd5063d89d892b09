import UnitTestGen.Proofs.Exec.Population

/-! A journal of what a cycle has from programs and from the store. Any surroundings can keep one:
they answer as before, and a list grows beside their world with each program that is run and each
drain of the store. A cycle that runs with a journal does what it does without one, so that the
journal of a run shows on which answers its end rests. -/

namespace UnitTestGen

inductive Event where
  | ran (command : Command) (answer : Except IoFault Outcome)
  | drained (answer : Except StoreError Traces)

structure Journaled (W : Type) where
  world : W
  events : List Event

namespace Journaled

variable {W κ σ γ α : Type}

def lift (x : StateM W α) : StateM (Journaled W) α := fun s =>
  let (a, w) := x.run s.world
  (a, ⟨w, s.events⟩)

def recorded (event : α → Event) (x : StateM W α) : StateM (Journaled W) α := fun s =>
  let (a, w) := x.run s.world
  (a, ⟨w, s.events ++ [event a]⟩)

instance [Host (StateM W)] : Host (StateM (Journaled W)) where
  readFile path := lift (Host.readFile path)
  writeFile path bytes := lift (Host.writeFile path bytes)
  appendFile path bytes := lift (Host.appendFile path bytes)
  removeFile path := lift (Host.removeFile path)
  createDirs path := lift (Host.createDirs path)
  listDir path := lift (Host.listDir path)
  isDir path := lift (Host.isDir path)
  isFile path := lift (Host.isFile path)
  pathExists path := lift (Host.pathExists path)
  currentDir := lift Host.currentDir
  now := lift Host.now
  run command := recorded (.ran command) (Host.run command)

instance [TraceStore (StateM W) σ] : TraceStore (StateM (Journaled W)) σ where
  clear s := lift (TraceStore.clear s)
  publish s f := lift (TraceStore.publish s f)
  drain s := recorded (fun out => .drained out.1) (TraceStore.drain s)
  env s := TraceStore.env (StateM W) s

instance [Container (StateM W) κ γ] : Container (StateM (Journaled W)) κ γ where
  path k := Container.path (m := StateM W) k
  name k := Container.name (m := StateM W) k
  chromosomes k := Container.chromosomes (m := StateM W) k
  withChromosomes k chromosomes := Container.withChromosomes (m := StateM W) k chromosomes
  refresh k := lift (Container.refresh k)

end Journaled

section Recording

variable {m n : Type → Type} {S S' : Type} [Monad m] [Monad n] [Stateful m S] [Stateful n S']
  {α β : Type} {j : S → List Event → S'}

def Unrecorded (j : S → List Event → S') (x : n α) (y : m α) : Prop :=
  ∀ s es, Stateful.exec x (j s es) = ((Stateful.exec y s).1, j (Stateful.exec y s).2 es)

def Recorded (j : S → List Event → S') (event : α → Event) (x : n α) (y : m α) : Prop :=
  ∀ s es, Stateful.exec x (j s es) =
    ((Stateful.exec y s).1, j (Stateful.exec y s).2 (es ++ [event (Stateful.exec y s).1]))

structure Host.Records [Host m] [Host n] (j : S → List Event → S') : Prop where
  writeFile (path : String) (bytes : ByteArray) :
    Unrecorded j (Host.writeFile (m := n) path bytes) (Host.writeFile (m := m) path bytes)
  appendFile (path : String) (bytes : ByteArray) :
    Unrecorded j (Host.appendFile (m := n) path bytes) (Host.appendFile (m := m) path bytes)
  createDirs (path : String) :
    Unrecorded j (Host.createDirs (m := n) path) (Host.createDirs (m := m) path)
  isDir (path : String) : Unrecorded j (Host.isDir (m := n) path) (Host.isDir (m := m) path)
  now : Unrecorded j (Host.now (m := n)) (Host.now (m := m))
  run (command : Command) :
    Recorded j (.ran command) (Host.run (m := n) command) (Host.run (m := m) command)

namespace Cycle

variable {s : Progress × S} {x : Cycle n α} {y : Cycle m α} {f : α → Cycle n β} {g : α → Cycle m β}
  {P : α → List Event → Prop} {Q : β → List Event → Prop}

/-- Beside a journal the first part of a cycle does from a state what the second does, and what it
adds to the journal goes with its end as said. -/
def EndsAt (j : S → List Event → S') (s : Progress × S) (x : Cycle n α) (y : Cycle m α)
    (R : Except ExecError α → List Event → Prop) : Prop :=
  ∃ new, (∀ es, exec x (s.1, j s.2 es) =
      ((exec y s).1, (exec y s).2.1, j (exec y s).2.2 (es ++ new))) ∧ R (exec y s).1 new

def RecordsAt (j : S → List Event → S') (s : Progress × S) (x : Cycle n α) (y : Cycle m α)
    (P : α → List Event → Prop) : Prop :=
  ∃ new, (∀ es, exec x (s.1, j s.2 es) =
      ((exec y s).1, (exec y s).2.1, j (exec y s).2.2 (es ++ new))) ∧
    ∀ a, (exec y s).1 = .ok a → P a new

abbrev Succeeding (P : α → List Event → Prop) (r : Except ExecError α) (new : List Event) : Prop :=
  ∀ a, r = .ok a → P a new

theorem recordsAt_iff : RecordsAt j s x y P ↔ EndsAt j s x y (Succeeding P) := .rfl

abbrev Silent (_ : α) (new : List Event) : Prop := new = []

def Quiet (r : Except ExecError α) (new : List Event) : Prop :=
  new = [] ∧ ∀ e, r = .error e → e.stage = none

namespace EndsAt

variable {R : Except ExecError α → List Event → Prop} {R' : Except ExecError β → List Event → Prop}

theorem of_unchanged
    (h : ∀ es, exec x (s.1, j s.2 es) = ((exec y s).1, (exec y s).2.1, j (exec y s).2.2 es))
    (hR : R (exec y s).1 []) : EndsAt j s x y R :=
  ⟨[], fun es => by rw [h, List.append_nil], hR⟩

theorem pure {a : α} (h : R (.ok a) []) :
    EndsAt j s (Pure.pure a : Cycle n α) (Pure.pure a : Cycle m α) R := by
  refine of_unchanged (fun es => ?_) ?_
  · rw [exec_pure, exec_pure]
  · rwa [exec_pure]

theorem throw {e : ExecError} (h : R (.error e) []) :
    EndsAt j s (MonadExcept.throw e : Cycle n α) (MonadExcept.throw e : Cycle m α) R := by
  have hn := exec_throw (m := n) (α := α) e
  have hm := exec_throw (m := m) (α := α) e s
  refine of_unchanged (fun es => ?_) ?_
  · rw [show exec (MonadExcept.throw e : Cycle n α) _ = _ from hn _,
      show exec (MonadExcept.throw e : Cycle m α) s = _ from hm]
  · rwa [show exec (MonadExcept.throw e : Cycle m α) s = _ from hm]

theorem mono {R₀ : Except ExecError α → List Event → Prop} (h : EndsAt j s x y R₀)
    (hR : ∀ r new, R₀ r new → R r new) : EndsAt j s x y R := by
  obtain ⟨new, hx, hnew⟩ := h
  exact ⟨new, hx, hR _ _ hnew⟩

theorem bind (h : EndsAt j s x y R)
    (hok : ∀ a s' new, exec y s = (.ok a, s') → R (.ok a) new →
      EndsAt j s' (f a) (g a) fun r more => R' r (new ++ more))
    (herror : ∀ e new, R (.error e) new → R' (.error e) new) :
    EndsAt j s (x >>= f) (y >>= g) R' := by
  obtain ⟨new, hx, hR⟩ := h
  simp only [EndsAt, exec_bind, hx]
  rcases hy : exec y s with ⟨e | a, p, s'⟩ <;> rw [hy] at hR
  · exact ⟨new, fun _ => rfl, herror e new hR⟩
  · obtain ⟨more, hmore, hQ⟩ := hok a (p, s') new hy hR
    refine ⟨new ++ more, fun es => ?_, hQ⟩
    rw [← List.append_assoc]
    exact hmore (es ++ new)

theorem after (h : EndsAt j s x y Quiet)
    (hok : ∀ a s', exec y s = (.ok a, s') → EndsAt j s' (f a) (g a) R')
    (herror : ∀ e, e.stage = none → R' (.error e) []) : EndsAt j s (x >>= f) (y >>= g) R' := by
  refine h.bind (fun a s' new hy hnew => ?_) fun e new hnew => ?_
  · obtain ⟨rfl, -⟩ := hnew
    exact hok a s' hy
  · obtain ⟨rfl, he⟩ := hnew
    exact herror e (he e rfl)

theorem quiet_after (h : EndsAt j s x y Quiet) (hf : ∀ a s', EndsAt j s' (f a) (g a) Quiet) :
    EndsAt j s (x >>= f) (y >>= g) Quiet := by
  refine h.after (fun a s' _ => hf a s') fun e he => ⟨rfl, ?_⟩
  rintro _ ⟨⟩
  exact he

theorem quiet_pure (a : α) : EndsAt j s (Pure.pure a : Cycle n α) (Pure.pure a : Cycle m α) Quiet :=
  .pure ⟨rfl, nofun⟩

theorem quiet_throw {e : ExecError} (he : e.stage = none) :
    EndsAt j s (MonadExcept.throw e : Cycle n α) (MonadExcept.throw e : Cycle m α) Quiet := by
  refine .throw ⟨rfl, ?_⟩
  rintro _ ⟨⟩
  exact he

theorem lift {x : n α} {y : m α} (h : Unrecorded j x y) :
    EndsAt j s (liftM x : Cycle n α) (liftM y : Cycle m α) Quiet := by
  obtain ⟨p, s⟩ := s
  refine of_unchanged (fun es => ?_) ⟨rfl, fun e he => ?_⟩
  · rw [exec_lift, exec_lift, h]
  · rw [exec_lift] at he
    exact nomatch he

theorem lift_recorded {event : α → Event} {x : n α} {y : m α} (h : Recorded j event x y) :
    EndsAt j s (liftM x : Cycle n α) (liftM y : Cycle m α)
      fun r new => ∃ a, r = .ok a ∧ new = [event a] := by
  obtain ⟨p, s⟩ := s
  refine ⟨[event (Stateful.exec y s).1], fun es => ?_, (Stateful.exec y s).1, ?_, rfl⟩
  · rw [exec_lift, exec_lift, h]
  · rw [exec_lift]

theorem recordsAt (h : EndsAt j s x y Quiet) : RecordsAt j s x y Silent :=
  recordsAt_iff.2 <| h.mono fun _ _ hquiet _ _ => hquiet.1

end EndsAt

namespace RecordsAt

theorem of_unchanged
    (h : ∀ es, exec x (s.1, j s.2 es) = ((exec y s).1, (exec y s).2.1, j (exec y s).2.2 es)) :
    RecordsAt j s x y Silent :=
  recordsAt_iff.2 <| .of_unchanged h fun _ _ => rfl

theorem pure {a : α} (h : P a []) :
    RecordsAt j s (Pure.pure a : Cycle n α) (Pure.pure a : Cycle m α) P :=
  recordsAt_iff.2 <| .pure fun _ hb => Except.ok.inj hb ▸ h

theorem throw (e : ExecError) :
    RecordsAt j s (MonadExcept.throw e : Cycle n α) (MonadExcept.throw e : Cycle m α) P :=
  recordsAt_iff.2 <| .throw nofun

theorem lift {x : n α} {y : m α} (h : Unrecorded j x y) :
    RecordsAt j s (liftM x : Cycle n α) (liftM y : Cycle m α) Silent :=
  (EndsAt.lift h).recordsAt

theorem bind (h : RecordsAt j s x y P)
    (hf : ∀ a new, P a new → ∀ s', RecordsAt j s' (f a) (g a) fun b more => Q b (new ++ more)) :
    RecordsAt j s (x >>= f) (y >>= g) Q :=
  recordsAt_iff.2 <| (recordsAt_iff.1 h).bind
    (fun a s' new _ hP => recordsAt_iff.1 (hf a new (hP a rfl) s')) fun _ _ _ => nofun

theorem succeeded (h : RecordsAt j s x y P) :
    RecordsAt j s x y fun a new => (exec y s).1 = .ok a ∧ P a new := by
  obtain ⟨new, hx, hP⟩ := h
  exact ⟨new, hx, fun a ha => ⟨ha, hP a ha⟩⟩

theorem after (h : RecordsAt j s x y Silent) (hf : ∀ a s', RecordsAt j s' (f a) (g a) Q) :
    RecordsAt j s (x >>= f) (y >>= g) Q :=
  h.bind fun a _ hnew s' => hnew ▸ hf a s'

end RecordsAt

theorem quietAt_file (r : Except IoFault α) :
    EndsAt j s (file r : Cycle n α) (file r : Cycle m α) Quiet := by
  cases r with
  | ok a => exact .quiet_pure a
  | error e => exact .quiet_throw rfl

theorem recordsAt_file (r : Except IoFault α) :
    RecordsAt j s (file r : Cycle n α) (file r : Cycle m α) Silent :=
  (quietAt_file r).recordsAt

theorem quietAt_step (target : RunnerState) :
    EndsAt j s (step target : Cycle n Unit) (step target : Cycle m Unit) Quiet := by
  obtain ⟨p, s⟩ := s
  refine .of_unchanged (fun es => ?_) ⟨rfl, fun e he => ?_⟩
  · rw [exec_step, exec_step]
    split <;> rfl
  · rw [exec_step] at he
    split at he
    · exact nomatch he
    · cases he
      rfl

theorem recordsAt_step (target : RunnerState) :
    RecordsAt j s (step target : Cycle n Unit) (step target : Cycle m Unit) Silent :=
  (quietAt_step target).recordsAt

variable [Host m] [Host n] (h : Host.Records (m := m) (n := n) j)
include h

theorem endsAt_launch (command : Command) :
    EndsAt j s (launch command : Cycle n Outcome) (launch command : Cycle m Outcome)
      fun r new => ∃ answer, new = [.ran command answer] ∧
        r = answer.mapError (.spawn command.stage command.programName) := by
  refine .bind (.lift_recorded (h.run command)) (fun answer _ new _ hnew => ?_)
    fun e new hnew => ?_
  · obtain ⟨_, ⟨⟩, rfl⟩ := hnew
    cases answer with
    | ok o => exact .pure ⟨_, rfl, rfl⟩
    | error e => exact .throw ⟨_, rfl, rfl⟩
  · obtain ⟨_, he, -⟩ := hnew
    exact nomatch he

theorem recordsAt_launch (command : Command) :
    RecordsAt j s (launch command : Cycle n Outcome) (launch command : Cycle m Outcome)
      fun o new => new = [.ran command (.ok o)] := by
  refine recordsAt_iff.2 ((endsAt_launch h command).mono ?_)
  rintro _ _ ⟨answer, rfl, rfl⟩ o ho
  cases answer with
  | ok o' => exact congrArg (fun o => [Event.ran command (.ok o)]) (Except.ok.inj ho)
  | error e => exact nomatch ho

theorem quietAt_openLog (path : String) :
    EndsAt j s (openLog path : Cycle n Unit) (openLog path : Cycle m Unit) Quiet :=
  .quiet_after (.lift (h.appendFile path _)) fun r _ => quietAt_file r

theorem recordsAt_openLog (path : String) :
    RecordsAt j s (openLog path : Cycle n Unit) (openLog path : Cycle m Unit) Silent :=
  (quietAt_openLog h path).recordsAt

theorem quietAt_checkRoot (root : String) :
    EndsAt j s (checkRoot root : Cycle n Unit) (checkRoot root : Cycle m Unit) Quiet := by
  refine .quiet_after (.lift (h.isDir root)) fun b _ => ?_
  cases b with
  | true => exact .quiet_pure ()
  | false => exact .quiet_throw rfl

theorem recordsAt_checkRoot (root : String) :
    RecordsAt j s (checkRoot root : Cycle n Unit) (checkRoot root : Cycle m Unit) Silent :=
  (quietAt_checkRoot h root).recordsAt

theorem quietAt_resetLogs (c : RunnerConfig) :
    EndsAt j s (resetLogs c : Cycle n Unit) (resetLogs c : Cycle m Unit) Quiet :=
  .quiet_after (.lift (h.createDirs c.outputDir)) fun made _ =>
    .quiet_after (quietAt_file made) fun _ _ =>
      .quiet_after (.lift (h.writeFile c.testsLog _)) fun emptied _ =>
        .quiet_after (quietAt_file emptied) fun _ _ =>
          .quiet_after (.lift (h.writeFile c.testsError _)) fun r _ => quietAt_file r

theorem recordsAt_resetLogs (c : RunnerConfig) :
    RecordsAt j s (resetLogs c : Cycle n Unit) (resetLogs c : Cycle m Unit) Silent :=
  (quietAt_resetLogs h c).recordsAt

end Cycle
end Recording

namespace TracedCycle

open UnitTestGen.Cycle

variable {W κ σ γ : Type}

def beside (s : Workspace κ σ × W) (es : List Event) : Workspace κ σ × Journaled W :=
  (s.1, ⟨s.2, es⟩)

/-- The journal of a run whose tests were judged: the crate was built, then its tests were run, and
then the store was drained. The ids are what the run of the tests says. -/
def Tested (c : RunnerConfig) (root : String) (ids : List UInt64) (traces : Traces)
    (events : List Event) : Prop :=
  ∃ env built tested, events =
      [.ran (c.instrumentCommand root env) (.ok built),
        .ran (c.tracedTestCommand root env) (.ok tested), .drained (.ok traces)] ∧
    verdicts tested (Text.decodeLossy tested.stdout) = some ids

section Store

variable {s : Progress × Workspace κ σ × W}

theorem recordsAt_getWorkspace :
    RecordsAt beside s (getThe (Workspace κ σ) : TracedCycle κ σ (StateM (Journaled W)) _)
      (getThe (Workspace κ σ) : TracedCycle κ σ (StateM W) _)
      fun w new => w = s.2.1 ∧ new = [] := by
  refine ⟨[], fun es => ?_, ?_⟩
  · rw [List.append_nil]
    rfl
  · rintro _ ⟨⟩
    exact ⟨rfl, rfl⟩

variable [TraceStore (StateM W) σ]

theorem recordsAt_clear :
    RecordsAt beside s
      (onStore (TraceStore.clear (m := StateM (Journaled W))) :
        TracedCycle κ σ (StateM (Journaled W)) Unit)
      (onStore (TraceStore.clear (m := StateM W)) : TracedCycle κ σ (StateM W) Unit) Silent := by
  obtain ⟨p, ⟨k, store⟩, w⟩ := s
  refine .of_unchanged fun es => ?_
  rw [exec_onStore, exec_onStore]
  rfl

theorem recordsAt_drain :
    RecordsAt beside s
      (onStore (TraceStore.drain (m := StateM (Journaled W))) :
        TracedCycle κ σ (StateM (Journaled W)) Traces)
      (onStore (TraceStore.drain (m := StateM W)) : TracedCycle κ σ (StateM W) Traces)
      fun traces new => new = [.drained (.ok traces)] := by
  obtain ⟨p, ⟨k, store⟩, w⟩ := s
  refine ⟨[.drained ((TraceStore.drain (m := StateM W) store).run w).1.1], fun es => ?_, ?_⟩
  · rw [exec_onStore, exec_onStore]
    rfl
  · intro traces ht
    rw [exec_onStore] at ht
    cases hd : ((TraceStore.drain (m := StateM W) store).run w).1.1 with
    | ok a =>
      rw [hd] at ht
      rw [Except.ok.inj ht]
    | error e =>
      rw [hd] at ht
      exact nomatch ht

end Store

variable [Container (StateM W) κ γ] {s : Progress × Workspace κ σ × W}

theorem recordsAt_settle [Chromosome γ] (ids : List UInt64) (traces : Traces) :
    RecordsAt beside s (settle ids traces : TracedCycle κ σ (StateM (Journaled W)) (List γ))
      (settle ids traces : TracedCycle κ σ (StateM W) (List γ)) Silent := by
  have hpopulation (s : Progress × Workspace κ σ × W) :
      RecordsAt beside s (population : TracedCycle κ σ (StateM (Journaled W)) (List γ))
        (population : TracedCycle κ σ (StateM W) (List γ)) Silent := .of_unchanged fun _ => rfl
  have hset (cs : List γ) (s : Progress × Workspace κ σ × W) :
      RecordsAt beside s (setPopulation cs : TracedCycle κ σ (StateM (Journaled W)) Unit)
        (setPopulation cs : TracedCycle κ σ (StateM W) Unit) Silent := .of_unchanged fun _ => rfl
  have hrefresh (s : Progress × Workspace κ σ × W) :
      RecordsAt beside s
        (refresh : TracedCycle κ σ (StateM (Journaled W)) (Except ExecError Unit))
        (refresh : TracedCycle κ σ (StateM W) (Except ExecError Unit)) Silent :=
    .of_unchanged fun es => by
      obtain ⟨p, ⟨k, store⟩, w⟩ := s
      rw [exec_refresh, exec_refresh]
      rfl
  unfold settle
  refine .after (hpopulation _) fun everyone s' => .after (hset _ s') fun _ s' => ?_
  refine .after (hrefresh s') fun written s' => ?_
  cases written with
  | error e =>
    exact .after (hpopulation s') fun left s' => .after (hset _ s') fun _ _ => .throw e
  | ok u => exact .after (recordsAt_step .done) fun _ _ => .pure rfl

variable [Host (StateM W)]

theorem host_records :
    Host.Records (m := StateT (Workspace κ σ) (StateM W))
      (n := StateT (Workspace κ σ) (StateM (Journaled W))) beside where
  writeFile _ _ _ _ := rfl
  appendFile _ _ _ _ := rfl
  createDirs _ _ _ := rfl
  isDir _ _ _ := rfl
  now _ _ := rfl
  run _ _ _ := rfl

theorem recordsAt_judge [TraceStore (StateM W) σ] (c : RunnerConfig) :
    RecordsAt beside s
      (judge c : TracedCycle κ σ (StateM (Journaled W)) (Option (List UInt64 × Traces)))
      (judge c : TracedCycle κ σ (StateM W) (Option (List UInt64 × Traces)))
      fun verdict events => ∀ ids traces, verdict = some (ids, traces) →
        Tested c (Container.path (m := StateM W) s.2.1.container) ids traces events := by
  have h := host_records (W := W) (κ := κ) (σ := σ)
  unfold judge
  -- only the two programs and the drain are kept; the crate they run in is the one held at first
  refine recordsAt_getWorkspace.bind fun before _ hbefore s' => ?_
  obtain ⟨rfl, rfl⟩ := hbefore
  refine .after (recordsAt_checkRoot h _) fun _ _ => ?_
  refine .after recordsAt_clear fun _ _ => ?_
  refine .after (recordsAt_resetLogs h c) fun _ _ => ?_
  refine .after (recordsAt_step .instrumentedRun) fun _ _ => ?_
  refine recordsAt_getWorkspace.bind fun w _ hw _ => ?_
  obtain ⟨-, rfl⟩ := hw
  refine .after (.lift (h.createDirs _)) fun made _ => .after (recordsAt_file made) fun _ _ => ?_
  refine (recordsAt_launch h _).bind fun built _ hbuilt _ => ?_
  refine .after (.lift h.now) fun _ _ => ?_
  refine .after (.lift (h.writeFile _ _)) fun kept _ => .after (recordsAt_file kept) fun _ _ => ?_
  refine .after (recordsAt_openLog h _) fun _ _ => ?_
  refine (recordsAt_launch h _).bind fun tested _ htested _ => ?_
  refine .after (.lift h.now) fun _ _ => ?_
  refine .after (.lift (h.writeFile _ _)) fun kept _ => .after (recordsAt_file kept) fun _ _ => ?_
  cases hv : verdicts tested (Text.decodeLossy tested.stdout) with
  | none => exact .pure fun _ _ hnone => nomatch hnone
  | some ids =>
    refine recordsAt_drain.bind fun traces _ hdrained _ => .pure ?_
    rintro _ _ ⟨⟩
    subst hbuilt htested hdrained
    exact ⟨_, built, tested, rfl, hv⟩

theorem recordsAt_traced [TraceStore (StateM W) σ] [Chromosome γ] (c : RunnerConfig) :
    RecordsAt beside s (traced c : TracedCycle κ σ (StateM (Journaled W)) (RunStatus γ))
      (traced c : TracedCycle κ σ (StateM W) (RunStatus γ))
      fun status events => ∀ failed, status = .ok failed → ∃ ids traces,
        Tested c (Container.path (m := StateM W) s.2.1.container) ids traces events ∧
          (exec (judge c : TracedCycle κ σ (StateM W) _) s).1 = .ok (some (ids, traces)) := by
  unfold traced
  refine (recordsAt_judge c).succeeded.bind fun verdict events hjudged s' => ?_
  obtain ⟨hresult, htested⟩ := hjudged
  cases verdict with
  | none => exact .pure fun _ h => nomatch h
  | some verdict =>
    obtain ⟨ids, traces⟩ := verdict
    refine (recordsAt_settle ids traces).bind fun failed _ hnew _ => .pure fun _ _ => ?_
    rw [hnew, List.append_nil, List.append_nil]
    exact ⟨ids, traces, htested ids traces rfl, hresult⟩

end TracedCycle

namespace Runner

variable {W κ σ γ : Type} [Host (StateM W)] [TraceStore (StateM W) σ] [Chromosome γ]
  [Container (StateM W) κ γ] (r : Runner) (k : κ) (store : σ) (w : W)

def journal : List Event :=
  ((r.runTraced k store : StateM (Journaled W) _).run ⟨w, []⟩).2.events

theorem runTraced_eq :
    (r.runTraced k store : StateM W _).run w =
      let out := Cycle.exec (TracedCycle.traced r.config : TracedCycle κ σ (StateM W) (RunStatus γ))
        (r.progress.started, ⟨k, store⟩, w)
      let p := match out.1 with
        | .ok (.ok _) => out.2.1
        | .ok .compilationError | .error _ => out.2.1.aborted
      ((out.1, { r with progress := p }, out.2.2.1), out.2.2.2) := rfl

/-- A traced cycle with a journal ends as it does without one. -/
theorem runTraced_journaled :
    (r.runTraced k store : StateM (Journaled W) _).run ⟨w, []⟩ =
      (((r.runTraced k store : StateM W _).run w).1,
        ⟨((r.runTraced k store : StateM W _).run w).2, r.journal k store w⟩) := by
  obtain ⟨new, hx, -⟩ := TracedCycle.recordsAt_traced (W := W) (κ := κ) (σ := σ)
    (s := (r.progress.started, ⟨k, store⟩, w)) r.config
  replace hx := hx []
  dsimp only [TracedCycle.beside] at hx
  unfold journal
  rw [runTraced_eq (W := Journaled W), runTraced_eq (W := W)]
  dsimp only
  rw [hx]

theorem judged_of_journal {failed : List γ}
    (hok : ((r.runTraced k store : StateM W _).run w).1.1 = .ok (.ok failed)) :
    ∃ ids traces, TracedCycle.Tested r.config (Container.path (m := StateM W) k) ids traces
        (r.journal k store w) ∧
      (Cycle.exec (TracedCycle.judge r.config : TracedCycle κ σ (StateM W) _)
        (r.progress.started, ⟨k, store⟩, w)).1 = .ok (some (ids, traces)) := by
  obtain ⟨new, hx, hnew⟩ := TracedCycle.recordsAt_traced (W := W) (κ := κ) (σ := σ)
    (s := (r.progress.started, ⟨k, store⟩, w)) r.config
  have hjournal : r.journal k store w = new := by
    unfold journal
    rw [runTraced_eq (W := Journaled W)]
    exact congrArg (fun out => out.2.2.2.events) (hx [])
  rw [hjournal]
  exact hnew _ hok failed rfl

end Runner
end UnitTestGen
