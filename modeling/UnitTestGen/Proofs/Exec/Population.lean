import UnitTestGen.Proofs.Exec.Frame

/-! What a traced cycle leaves of the population if it does not finish. Up to the verdicts the
container is only looked at, so a cycle that fails there or finds that the tests do not compile
leaves it as it was. Then the failed tests are taken out and the others get their coverage, and if
the crate cannot be written the failed ones come back, flagged and at the end, while the others keep
what they got. -/

namespace UnitTestGen

namespace TracedCycle

variable {W κ σ γ : Type}

theorem exec_getWorkspace (p : Progress) (s : Workspace κ σ) (w : W) :
    Cycle.exec (getThe (Workspace κ σ) : TracedCycle κ σ (StateM W) _) (p, s, w) =
      (.ok s, p, s, w) := rfl

theorem exec_modifyWorkspace (f : Workspace κ σ → Workspace κ σ) (p : Progress)
    (s : Workspace κ σ) (w : W) :
    Cycle.exec (modifyThe (Workspace κ σ) f : TracedCycle κ σ (StateM W) _) (p, s, w) =
      (.ok (), p, f s, w) := rfl

theorem exec_liftWorld {α : Type} (x : StateM W α) (p : Progress) (s : Workspace κ σ) (w : W) :
    Cycle.exec (liftM x : TracedCycle κ σ (StateM W) α) (p, s, w) =
      (.ok (x.run w).1, p, s, (x.run w).2) := rfl

theorem exec_onStore {α : Type} (act : σ → StateM W (Except StoreError α × σ)) (p : Progress)
    (k : κ) (store : σ) (w : W) :
    Cycle.exec (onStore act : TracedCycle κ σ (StateM W) α) (p, ⟨k, store⟩, w) =
      (((act store).run w).1.1.mapError .store, p, ⟨k, ((act store).run w).1.2⟩,
        ((act store).run w).2) := by
  unfold onStore
  rw [Cycle.exec_bind, exec_getWorkspace]
  dsimp only
  rw [Cycle.exec_bind, exec_liftWorld]
  dsimp only
  rw [Cycle.exec_bind, exec_modifyWorkspace]
  dsimp only
  cases ((act store).run w).1.1 with
  | ok a => exact Cycle.exec_pure _ _
  | error e => exact Cycle.exec_throw _ _

theorem frame_onStore {α : Type} (act : σ → StateM W (Except StoreError α × σ)) :
    Cycle.Frame (·.1.container) (onStore act : TracedCycle κ σ (StateM W) α) := by
  rintro p ⟨⟨k, store⟩, w⟩
  rw [exec_onStore]
  exact ⟨rfl, rfl⟩

section Write

variable [Chromosome γ] [Container (StateM W) κ γ]

omit [Chromosome γ] in
theorem exec_refresh (p : Progress) (k : κ) (store : σ) (w : W) :
    Cycle.exec (refresh : TracedCycle κ σ (StateM W) (Except ExecError Unit)) (p, ⟨k, store⟩, w) =
      (.ok ((Container.refresh (m := StateM W) k).run w).1.1, p,
        ⟨((Container.refresh (m := StateM W) k).run w).1.2, store⟩,
        ((Container.refresh (m := StateM W) k).run w).2) := by
  unfold refresh
  rw [Cycle.exec_bind, exec_getWorkspace]
  dsimp only
  rw [Cycle.exec_bind, exec_liftWorld]
  dsimp only
  rw [Cycle.exec_bind, exec_modifyWorkspace]
  exact Cycle.exec_pure _ _

theorem exec_settle (ids : List UInt64) (traces : Traces) {p : Progress}
    (hp : p.state = .instrumentedRun) (k : κ) (store : σ) (w : W) :
    Cycle.exec (settle ids traces : TracedCycle κ σ (StateM W) (List γ)) (p, ⟨k, store⟩, w) =
      let everyone := Container.chromosomes (m := StateM W) k
      let left := Container.withChromosomes (m := StateM W) k (surviving ids traces everyone)
      match (Container.refresh (m := StateM W) left).run w with
      | ((.ok (), k'), w') =>
        (.ok (failing ids everyone), ⟨.done, .done :: p.visited⟩, ⟨k', store⟩, w')
      | ((.error e, k'), w') =>
        (.error e, p, ⟨Container.withChromosomes (m := StateM W) k'
          (Container.chromosomes (m := StateM W) k' ++ failing ids everyone), store⟩, w') := by
  have hpop (k' : κ) (w' : W) :
      Cycle.exec (population : TracedCycle κ σ (StateM W) (List γ)) (p, ⟨k', store⟩, w') =
        (.ok (Container.chromosomes (m := StateM W) k'), p, ⟨k', store⟩, w') := rfl
  have hset (cs : List γ) (k' : κ) (w' : W) :
      Cycle.exec (setPopulation cs : TracedCycle κ σ (StateM W) Unit) (p, ⟨k', store⟩, w') =
        (.ok (), p, ⟨Container.withChromosomes (m := StateM W) k' cs, store⟩, w') := rfl
  unfold settle
  rw [Cycle.exec_bind, hpop]
  dsimp only
  rw [Cycle.exec_bind, hset]
  dsimp only
  rw [Cycle.exec_bind, exec_refresh]
  rcases (Container.refresh (m := StateM W) _).run w with ⟨⟨_ | _, k'⟩, w'⟩
  · dsimp only
    rw [Cycle.exec_bind, hpop]
    dsimp only
    rw [Cycle.exec_bind, hset]
    exact Cycle.exec_throw _ _
  · dsimp only
    rw [Cycle.exec_bind, Cycle.exec_step, hp]
    exact Cycle.exec_pure _ _

end Write

variable [Host (StateM W)]

theorem host_frame : Host.Frame (StateT (Workspace κ σ) (StateM W)) (·.1.container) where
  readFile _ _ := rfl
  writeFile _ _ _ := rfl
  appendFile _ _ _ := rfl
  createDirs _ _ := rfl
  isDir _ _ := rfl
  now _ := rfl
  run _ _ := rfl

variable [TraceStore (StateM W) σ] [Container (StateM W) κ γ]

theorem enters_judge (c : RunnerConfig) :
    Cycle.Enters (·.1.container) .instrumentedRun
      (judge c : TracedCycle κ σ (StateM W) (Option (List UInt64 × Traces))) := by
  have hv := host_frame (W := W) (κ := κ) (σ := σ)
  unfold judge
  -- before the step into the run the runner may stand anywhere, and after it nothing moves it
  refine .after (fun _ _ => ⟨rfl, rfl⟩) fun before => ?_
  refine .after (Cycle.frame_checkRoot hv _) fun _ => ?_
  refine .after (frame_onStore _) fun _ => ?_
  refine .after (Cycle.frame_resetLogs hv c) fun _ => ?_
  refine (Cycle.enters_step .instrumentedRun).bind_frame fun _ => ?_
  refine .bind (fun _ _ => ⟨rfl, rfl⟩) fun w => ?_
  refine .bind (.lift (hv.createDirs _)) fun made => .bind (Cycle.frame_file made) fun _ => ?_
  refine .bind (Cycle.frame_launch hv _) fun built => ?_
  refine .bind (.lift hv.now) fun _ => ?_
  refine .bind (.lift (hv.writeFile _ _)) fun kept => .bind (Cycle.frame_file kept) fun _ => ?_
  refine .bind (Cycle.frame_openLog hv _) fun _ => ?_
  refine .bind (Cycle.frame_launch hv _) fun tested => ?_
  refine .bind (.lift hv.now) fun _ => ?_
  refine .bind (.lift (hv.writeFile _ _)) fun kept => .bind (Cycle.frame_file kept) fun _ => ?_
  cases verdicts tested (Text.decodeLossy tested.stdout) with
  | none => exact .pure none
  | some ids => exact .bind (frame_onStore _) fun traces => .pure _

variable [Chromosome γ]

theorem exec_traced (c : RunnerConfig) (s : Progress × Workspace κ σ × W) :
    Cycle.exec (traced c : TracedCycle κ σ (StateM W) (RunStatus γ)) s =
      match Cycle.exec (judge c : TracedCycle κ σ (StateM W) _) s with
      | (.error e, s) => (.error e, s)
      | (.ok none, s) => (.ok .compilationError, s)
      | (.ok (some (ids, traces)), s) =>
        match Cycle.exec (settle ids traces : TracedCycle κ σ (StateM W) (List γ)) s with
        | (.ok failed, s) => (.ok (.ok failed), s)
        | (.error e, s) => (.error e, s) := by
  unfold traced
  rw [Cycle.exec_bind]
  rcases Cycle.exec (judge c : TracedCycle κ σ (StateM W) _) s with ⟨_ | _ | ⟨ids, traces⟩, s'⟩
  · rfl
  · exact Cycle.exec_pure _ _
  · dsimp only
    rw [Cycle.exec_bind]
    rcases Cycle.exec (settle ids traces : TracedCycle κ σ (StateM W) (List γ)) s' with ⟨_ | _, s''⟩
    · rfl
    · exact Cycle.exec_pure _ _

end TracedCycle

namespace Runner

variable {W σ : Type} [Host (StateM W)] [TraceStore (StateM W) σ] (r : Runner)
  (k : SourceContainer) (store : σ) (w : W)

def tracedEnd : Except ExecError (RunStatus TestCase) × List TestCase :=
  let out := ((r.runTraced k store : StateM W _).run w).1
  (out.1, out.2.2.container.chromosomes)

def judged : Except ExecError (Option (List UInt64 × Traces)) ×
    Progress × Workspace SourceContainer σ × W :=
  Cycle.exec (TracedCycle.judge r.config :
    TracedCycle SourceContainer σ (StateM W) (Option (List UInt64 × Traces)))
    (r.progress.started, ⟨k, store⟩, w)

def writeBack (ids : List UInt64) (traces : Traces) : StateM W (Except ExecError Unit) :=
  { k with chromosomes := surviving ids traces k.chromosomes }.refresh

/-- The tests were judged, and then those that are left could not be written into the crate. -/
def WriteBackFails (ids : List UInt64) (traces : Traces) (e : ExecError) : Prop :=
  (r.judged k store w).1 = .ok (some (ids, traces)) ∧
    ((writeBack k ids traces).run (r.judged k store w).2.2.2).1 = .error e

theorem tracedEnd_eq : r.tracedEnd k store w =
    match r.judged k store w with
    | (.error e, _) => (.error e, k.chromosomes)
    | (.ok none, _) => (.ok .compilationError, k.chromosomes)
    | (.ok (some (ids, traces)), _, _, w) =>
      match ((writeBack k ids traces).run w).1 with
      | .ok () => (.ok (.ok (failing ids k.chromosomes)), surviving ids traces k.chromosomes)
      | .error e =>
        (.error e, surviving ids traces k.chromosomes ++ failing ids k.chromosomes) := by
  have hend : r.tracedEnd k store w =
      let out := Cycle.exec (TracedCycle.traced r.config :
        TracedCycle SourceContainer σ (StateM W) (RunStatus TestCase))
        (r.progress.started, ⟨k, store⟩, w)
      (out.1, out.2.2.1.container.chromosomes) := rfl
  have hj : Cycle.exec (TracedCycle.judge r.config :
      TracedCycle SourceContainer σ (StateM W) (Option (List UInt64 × Traces)))
      (r.progress.started, ⟨k, store⟩, w) = r.judged k store w := rfl
  obtain ⟨hk, hp⟩ := TracedCycle.enters_judge (W := W) (σ := σ) (κ := SourceContainer) r.config
    r.progress.started (⟨k, store⟩, w)
  rw [hj] at hk hp
  rw [hend, TracedCycle.exec_traced, hj]
  generalize r.judged k store w = out at hk hp ⊢
  rcases out with ⟨e | _ | ⟨ids, traces⟩, p, ⟨k', store'⟩, w'⟩ <;> obtain rfl : k' = k := hk
  · rfl
  · rfl
  · dsimp only
    -- writing changes nothing of a container, so what is put back is what was kept and taken out
    rw [TracedCycle.exec_settle ids traces (hp _ rfl)]
    have hw : ∀ out, (writeBack k' ids traces).run w' = out →
        (Container.refresh (m := StateM W) (Container.withChromosomes (m := StateM W) k'
          (surviving ids traces (Container.chromosomes (m := StateM W) k')))).run w' =
            ((out.1, { k' with chromosomes := surviving ids traces k'.chromosomes }), out.2) := by
      rintro _ rfl
      rfl
    dsimp only
    rw [hw _ rfl]
    rcases (writeBack k' ids traces).run w' with ⟨_ | _, w''⟩ <;> rfl

/-- A cycle that does not finish leaves the population as it was, unless what it judged could not be
written back; then the population is those that are left, with what they traced, and behind them the
failed ones with their flag. -/
theorem unfinished_population_exact
    (hr : ∀ failed, (r.tracedEnd k store w).1 ≠ .ok (.ok failed)) :
    ((r.tracedEnd k store w).2 = k.chromosomes ↔
      ∀ ids traces e, r.WriteBackFails k store w ids traces e →
        surviving ids traces k.chromosomes ++ failing ids k.chromosomes = k.chromosomes) ∧
    ∀ ids traces e, r.WriteBackFails k store w ids traces e →
      r.tracedEnd k store w =
        (.error e, surviving ids traces k.chromosomes ++ failing ids k.chromosomes) := by
  revert hr
  unfold WriteBackFails
  rw [tracedEnd_eq]
  rcases r.judged k store w with ⟨e | _ | ⟨ids, traces⟩, p, s', w'⟩ <;> intro hr
  · exact ⟨⟨fun _ _ _ _ h => (nomatch h.1), fun _ => rfl⟩, fun _ _ _ h => (nomatch h.1)⟩
  · exact ⟨⟨fun _ _ _ _ h => (nomatch h.1), fun _ => rfl⟩, fun _ _ _ h => (nomatch h.1)⟩
  · dsimp only at hr ⊢
    cases hb : ((writeBack k ids traces).run w').1 with
    | ok u =>
      rw [hb] at hr
      exact absurd rfl (hr _)
    | error e =>
      refine ⟨⟨?_, fun h => h ids traces e ⟨rfl, hb⟩⟩, ?_⟩
      · rintro h _ _ _ ⟨⟨⟩, _⟩
        exact h
      · rintro _ _ e' ⟨⟨⟩, he⟩
        obtain rfl : e = e' := Except.error.inj (hb.symm.trans he)
        rfl

inductive LostSource
  | world
  deriving DecidableEq

instance : Host (StateM LostSource) where
  readFile _ := pure (.error .notFound)
  writeFile _ _ := pure (.ok ())
  appendFile _ _ := pure (.ok ())
  removeFile _ := pure (.ok ())
  createDirs _ := pure (.ok ())
  listDir _ := pure (.ok [])
  isDir _ := pure true
  isFile _ := pure false
  pathExists _ := pure false
  currentDir := pure (.ok "/")
  now := pure 0
  run _ :=
    pure (.ok ⟨some 101, "test tests::case_3 ... FAILED\ntest result: FAILED\n".toUTF8, .empty⟩)

namespace LostSource

def container : SourceContainer := ⟨"crate", "crate", "src/lib.rs", "tests", [.new 3, .new 7]⟩

def cycleEnd : Except ExecError (RunStatus TestCase) × List TestCase :=
  (Runner.new {}).tracedEnd container MemoryStore.empty world

theorem cycleEnd_unfinished : ∀ failed, cycleEnd.1 ≠ .ok (.ok failed) := by
  intro failed h
  have hr : cycleEnd.1.isOk = false := by decide +kernel
  rw [h] at hr
  exact Bool.noConfusion hr

theorem cycleEnd_fails : cycleEnd.2.map TestCase.fails = [false, true] := by
  decide +kernel

end LostSource

open LostSource in
theorem write_back_fails_lost_source :
    (∀ failed, cycleEnd.1 ≠ .ok (.ok failed)) ∧
      (∃ ids traces e, (Runner.new {}).WriteBackFails LostSource.container MemoryStore.empty world
        ids traces e) ∧
      cycleEnd.2.map TestCase.fails = [false, true] := by
  refine ⟨cycleEnd_unfinished, ?_, cycleEnd_fails⟩
  refine Classical.byContradiction fun hn => ?_
  have hkept := (unfinished_population_exact (Runner.new {}) LostSource.container MemoryStore.empty
    world cycleEnd_unfinished).1.2 fun ids traces e h => absurd ⟨ids, traces, e, h⟩ hn
  have hflags := (congrArg (List.map TestCase.fails) hkept).symm.trans cycleEnd_fails
  exact absurd hflags (by decide)

open LostSource in
theorem not_forall_unfinished_population_kept :
    ¬ ∀ (W σ : Type) [Host (StateM W)] [TraceStore (StateM W) σ] (r : Runner)
      (k : SourceContainer) (store : σ) (w : W),
      (∀ failed, (r.tracedEnd k store w).1 ≠ .ok (.ok failed)) →
        (r.tracedEnd k store w).2 = k.chromosomes := by
  intro h
  have hkept := h LostSource MemoryStore (Runner.new {}) LostSource.container .empty world
    cycleEnd_unfinished
  have hflags := (congrArg (List.map TestCase.fails) hkept).symm.trans cycleEnd_fails
  exact absurd hflags (by decide)

end Runner
end UnitTestGen
