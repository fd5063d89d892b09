import UnitTestGen.Exec.Runner

/-! Cycles as functions of the state they run on: where the runner stands, and whatever the monad
below holds, which for a plain cycle is the world and for a traced one the container and the store
with the world. A part of a cycle that only asks its surroundings leaves the runner where it stands
and changes nothing of the rest that the surroundings cannot change. -/

namespace UnitTestGen

class Stateful (m : Type → Type) (S : outParam Type) [Monad m] where
  exec {α : Type} : m α → S → α × S
  exec_pure {α : Type} (a : α) (s : S) : exec (pure a) s = (a, s)
  exec_bind {α β : Type} (x : m α) (f : α → m β) (s : S) :
    exec (x >>= f) s = exec (f (exec x s).1) (exec x s).2

instance {W : Type} : Stateful (StateM W) W where
  exec x w := x.run w
  exec_pure _ _ := rfl
  exec_bind _ _ _ := rfl

instance {m : Type → Type} {S σ : Type} [Monad m] [Stateful m S] :
    Stateful (StateT σ m) (σ × S) where
  exec x s :=
    let out := Stateful.exec (x.run s.1) s.2
    (out.1.1, out.1.2, out.2)
  exec_pure a s := by rw [StateT.run_pure, Stateful.exec_pure]
  exec_bind x f s := by rw [StateT.run_bind, Stateful.exec_bind]

/-- No request changes this view of the state. -/
structure Host.Frame (m : Type → Type) {S V : Type} [Monad m] [Stateful m S] [Host m]
    (view : S → V) : Prop where
  readFile (path : String) (s : S) : view (Stateful.exec (Host.readFile (m := m) path) s).2 = view s
  writeFile (path : String) (bytes : ByteArray) (s : S) :
    view (Stateful.exec (Host.writeFile (m := m) path bytes) s).2 = view s
  appendFile (path : String) (bytes : ByteArray) (s : S) :
    view (Stateful.exec (Host.appendFile (m := m) path bytes) s).2 = view s
  createDirs (path : String) (s : S) :
    view (Stateful.exec (Host.createDirs (m := m) path) s).2 = view s
  isDir (path : String) (s : S) : view (Stateful.exec (Host.isDir (m := m) path) s).2 = view s
  now (s : S) : view (Stateful.exec (Host.now (m := m)) s).2 = view s
  run (command : Command) (s : S) : view (Stateful.exec (Host.run (m := m) command) s).2 = view s

namespace Cycle

variable {m : Type → Type} {S V : Type} [Monad m] [Stateful m S] {α β : Type} {view : S → V}

def exec (act : Cycle m α) (s : Progress × S) : Except ExecError α × Progress × S :=
  Stateful.exec act.run s

theorem exec_pure (a : α) (s : Progress × S) : exec (pure a : Cycle m α) s = (.ok a, s) :=
  Stateful.exec_pure (m := StateT Progress m) _ s

theorem exec_throw (e : ExecError) (s : Progress × S) :
    exec (throw e : Cycle m α) s = (.error e, s) :=
  Stateful.exec_pure (m := StateT Progress m) _ s

theorem exec_pure_eq_ok_iff {a b : α} {s s' : Progress × S} :
    exec (pure a : Cycle m α) s = (.ok b, s') ↔ a = b ∧ s = s' := by
  rw [exec_pure, Prod.mk.injEq, Except.ok.injEq]

theorem exec_throw_ne_ok {e : ExecError} {a : α} {s s' : Progress × S} :
    exec (throw e : Cycle m α) s ≠ (.ok a, s') := by
  rw [exec_throw]
  exact fun h => nomatch congrArg Prod.fst h

theorem exec_except (r : Except ExecError α) (s : Progress × S) :
    exec (liftM r : Cycle m α) s = (r, s) :=
  Stateful.exec_pure (m := StateT Progress m) _ s

theorem exec_bind (act : Cycle m α) (f : α → Cycle m β) (s : Progress × S) :
    exec (act >>= f) s = match exec act s with
      | (.ok a, s) => exec (f a) s
      | (.error e, s) => (.error e, s) := by
  unfold exec
  rw [ExceptT.run_bind, Stateful.exec_bind]
  rcases Stateful.exec act.run s with ⟨_ | a, s'⟩
  · exact Stateful.exec_pure (m := StateT Progress m) _ _
  · rfl

theorem exec_bind_of_ok {act : Cycle m α} {a : α} {s s' : Progress × S}
    (h : exec act s = (.ok a, s')) (f : α → Cycle m β) : exec (act >>= f) s = exec (f a) s' := by
  rw [exec_bind, h]

theorem exec_bind_of_error {act : Cycle m α} {e : ExecError} {s s' : Progress × S}
    (h : exec act s = (.error e, s')) (f : α → Cycle m β) :
    exec (act >>= f) s = (.error e, s') := by
  rw [exec_bind, h]

theorem exists_of_exec_bind {act : Cycle m α} {f : α → Cycle m β} {b : β} {s s' : Progress × S}
    (h : exec (act >>= f) s = (.ok b, s')) :
    ∃ a between, exec act s = (.ok a, between) ∧ exec (f a) between = (.ok b, s') := by
  rw [exec_bind] at h
  rcases hact : exec act s with ⟨e | a, between⟩ <;> rw [hact] at h
  · exact nomatch congrArg Prod.fst h
  · exact ⟨a, between, rfl, h⟩

theorem exec_bind_bind {γ : Type} (act : Cycle m α) (f : α → Cycle m β) (g : β → Cycle m γ)
    (s : Progress × S) : exec (act >>= fun a => f a >>= g) s = exec ((act >>= f) >>= g) s := by
  rw [exec_bind, exec_bind _ g, exec_bind]
  rcases exec act s with ⟨e | a, s'⟩
  · rfl
  · exact exec_bind _ _ _

theorem exec_lift (x : m α) (p : Progress) (s : S) :
    exec (liftM x : Cycle m α) (p, s) =
      (.ok (Stateful.exec x s).1, p, (Stateful.exec x s).2) := by
  change Stateful.exec (StateT.map Except.ok (StateT.lift x)) (p, s) = _
  simp only [Stateful.exec, StateT.run, StateT.map, StateT.lift, Stateful.exec_bind,
    Stateful.exec_pure]

theorem exec_checkRoot [Host m] {root : String} {isDir : Bool} {s s' : S}
    (h : Stateful.exec (Host.isDir root : m Bool) s = (isDir, s')) (p : Progress) :
    exec (checkRoot root : Cycle m Unit) (p, s) =
      if isDir then (.ok (), p, s') else (.error (.crateRoot root), p, s') := by
  have hasked : exec (Host.isDir root : Cycle m Bool) (p, s) = (.ok isDir, p, s') := by
    rw [show exec (Host.isDir root) (p, s) = _ from exec_lift (Host.isDir root : m Bool) p s, h]
  unfold checkRoot
  rw [exec_bind_of_ok hasked]
  split
  · exact exec_pure _ _
  · exact exec_throw _ _

def Frame (view : S → V) (act : Cycle m α) : Prop :=
  ∀ p s, (exec act (p, s)).2.1 = p ∧ view (exec act (p, s)).2.2 = view s

namespace Frame

theorem pure (a : α) : Frame view (Pure.pure a : Cycle m α) := by
  intro p s
  rw [exec_pure]
  exact ⟨rfl, rfl⟩

theorem throw (e : ExecError) : Frame view (MonadExcept.throw e : Cycle m α) := by
  intro p s
  rw [show exec (MonadExcept.throw e : Cycle m α) (p, s) = _ from exec_throw e (p, s)]
  exact ⟨rfl, rfl⟩

theorem lift {x : m α} (hx : ∀ s, view (Stateful.exec x s).2 = view s) :
    Frame view (liftM x : Cycle m α) := by
  intro p s
  rw [exec_lift]
  exact ⟨rfl, hx s⟩

theorem bind {act : Cycle m α} {f : α → Cycle m β} (h : Frame view act)
    (hf : ∀ a, Frame view (f a)) : Frame view (act >>= f) := by
  intro p s
  obtain ⟨hp, hv⟩ := h p s
  rw [exec_bind]
  rcases hact : exec act (p, s) with ⟨_ | a, p', s'⟩ <;> rw [hact] at hp hv
  · exact ⟨hp, hv⟩
  · obtain ⟨hp', hv'⟩ := hf a p' s'
    exact ⟨hp'.trans hp, hv'.trans hv⟩

end Frame

def Enters (view : S → V) (target : RunnerState) (act : Cycle m α) : Prop :=
  ∀ p s, view (exec act (p, s)).2.2 = view s ∧
    ∀ a, (exec act (p, s)).1 = .ok a → (exec act (p, s)).2.1.state = target

theorem exec_step (target : RunnerState) (p : Progress) (s : S) :
    exec (step target : Cycle m Unit) (p, s) =
      if p.state.canStep target then (.ok (), ⟨target, target :: p.visited⟩, s)
      else (.error (.invalidTransition p.state target), p, s) := by
  have hget : exec (getThe Progress : Cycle m Progress) (p, s) = (.ok p, p, s) := by
    change Stateful.exec (StateT.map Except.ok StateT.get) (p, s) = _
    simp only [Stateful.exec, StateT.run, StateT.map, StateT.get, Stateful.exec_bind,
      Stateful.exec_pure]
  unfold step
  rw [exec_bind, hget]
  change exec (if p.state.canStep target then _ else _) (p, s) = _
  split
  · change Stateful.exec (StateT.map Except.ok (StateT.set _)) (p, s) = _
    have hset (q : Progress) : (StateT.set q : StateT Progress m _) p = pure (⟨⟩, q) := rfl
    simp only [Stateful.exec, StateT.run, StateT.map, hset, Stateful.exec_bind,
      Stateful.exec_pure]
  · exact exec_throw _ _

theorem enters_step (target : RunnerState) : Enters view target (step target : Cycle m Unit) := by
  intro p s
  rw [exec_step]
  split
  · exact ⟨rfl, fun _ _ => rfl⟩
  · exact ⟨rfl, fun _ h => nomatch h⟩

theorem Enters.after {act : Cycle m α} {f : α → Cycle m β} {target : RunnerState}
    (h : Frame view act) (hf : ∀ a, Enters view target (f a)) :
    Enters view target (act >>= f) := by
  intro p s
  obtain ⟨_, hv⟩ := h p s
  rw [exec_bind]
  rcases hact : exec act (p, s) with ⟨_ | a, p', s'⟩ <;> rw [hact] at hv
  · exact ⟨hv, fun _ h => nomatch h⟩
  · obtain ⟨hv', ht⟩ := hf a p' s'
    exact ⟨hv'.trans hv, ht⟩

theorem Enters.bind_frame {act : Cycle m α} {f : α → Cycle m β} {target : RunnerState}
    (h : Enters view target act) (hf : ∀ a, Frame view (f a)) :
    Enters view target (act >>= f) := by
  intro p s
  obtain ⟨hv, ht⟩ := h p s
  rw [exec_bind]
  rcases hact : exec act (p, s) with ⟨_ | a, p', s'⟩ <;> rw [hact] at hv ht
  · exact ⟨hv, fun _ h => nomatch h⟩
  · obtain ⟨hp', hv'⟩ := hf a p' s'
    exact ⟨hv'.trans hv, fun b _ => (congrArg Progress.state hp').trans (ht a rfl)⟩

theorem frame_file (r : Except IoFault α) : Frame view (file r : Cycle m α) := by
  cases r with
  | ok a => exact .pure a
  | error e => exact .throw _

variable [Host m] (hv : Host.Frame m view)
include hv

theorem frame_launch (command : Command) : Frame view (launch command : Cycle m Outcome) := by
  refine .bind (.lift (hv.run command)) fun r => ?_
  cases r with
  | ok o => exact .pure o
  | error e => exact .throw _

theorem frame_openLog (path : String) : Frame view (openLog path : Cycle m Unit) :=
  .bind (.lift (hv.appendFile path _)) fun r => frame_file r

theorem frame_checkRoot (root : String) : Frame view (checkRoot root : Cycle m Unit) := by
  refine .bind (.lift (hv.isDir root)) fun b => ?_
  cases b with
  | true => exact .pure ()
  | false => exact .throw _

theorem frame_resetLogs (c : RunnerConfig) : Frame view (resetLogs c : Cycle m Unit) :=
  .bind (.lift (hv.createDirs c.outputDir)) fun made =>
    .bind (frame_file made) fun _ =>
      .bind (.lift (hv.writeFile c.testsLog _)) fun emptied =>
        .bind (frame_file emptied) fun _ =>
          .bind (.lift (hv.writeFile c.testsError _)) fun r => frame_file r

end Cycle
end UnitTestGen
