import UnitTestGen.Proofs.Exec.Journal

/-! How a traced cycle that ends well splits the population. The tests that the run reports as
failed are taken out in their order and flagged, and the others stay in theirs. A trace is given
only once, but among tests with different ids each still gets the trace of its own id, so that the
traces of other ids reach no test. -/

namespace UnitTestGen

/-- What a test holds besides its id, each changed by its own setter and by no other. -/
class LawfulChromosome (γ : Type) [Chromosome γ] where
  coverage : γ → Coverage
  fails : γ → Bool
  id_setCoverage (c : γ) (v : Coverage) :
    Chromosome.id (Chromosome.setCoverage c v) = Chromosome.id c
  coverage_setCoverage (c : γ) (v : Coverage) : coverage (Chromosome.setCoverage c v) = v
  fails_setCoverage (c : γ) (v : Coverage) : fails (Chromosome.setCoverage c v) = fails c
  id_setFails (c : γ) (b : Bool) : Chromosome.id (Chromosome.setFails c b) = Chromosome.id c
  coverage_setFails (c : γ) (b : Bool) : coverage (Chromosome.setFails c b) = coverage c
  fails_setFails (c : γ) (b : Bool) : fails (Chromosome.setFails c b) = b

instance : LawfulChromosome TestCase where
  coverage tc := tc.coverage
  fails tc := tc.fails
  id_setCoverage _ _ := rfl
  coverage_setCoverage _ _ := rfl
  fails_setCoverage _ _ := rfl
  id_setFails _ _ := rfl
  coverage_setFails _ _ := rfl
  fails_setFails _ _ := rfl

structure Container.KeepsPopulation (W κ : Type) {γ : Type} [Container (StateM W) κ γ] :
    Prop where
  chromosomes_withChromosomes (k : κ) (population : List γ) :
    Container.chromosomes (m := StateM W)
      (Container.withChromosomes (m := StateM W) k population) = population
  chromosomes_refresh (k : κ) (w : W) :
    Container.chromosomes (m := StateM W) ((Container.refresh (m := StateM W) k).run w).1.2 =
      Container.chromosomes (m := StateM W) k

theorem SourceContainer.keepsPopulation (W : Type) [Host (StateM W)] :
    Container.KeepsPopulation W SourceContainer where
  chromosomes_withChromosomes _ _ := rfl
  chromosomes_refresh _ _ := rfl

section Population

variable {γ : Type} [Chromosome γ]

open Chromosome (setCoverage setFails)

theorem attachTraces_eq_map (traces : Traces) {population : List γ}
    (hids : (population.map Chromosome.id).Nodup) :
    attachTraces traces population =
      population.map fun c => setCoverage c (traces[Chromosome.id c]?.getD ∅) := by
  induction population generalizing traces with
  | nil => rfl
  | cons c rest ih =>
    obtain ⟨hc, hrest⟩ := List.nodup_cons.1 hids
    -- what is erased for the first test is no trace of a later one
    have htail := ih (traces.erase (Chromosome.id c)) hrest
    have hkept : ∀ d ∈ rest,
        (traces.erase (Chromosome.id c))[Chromosome.id d]? = traces[Chromosome.id d]? := by
      intro d hd
      have hne : Chromosome.id c ≠ Chromosome.id d := fun h => hc (h ▸ List.mem_map_of_mem hd)
      rw [Std.ExtTreeMap.getElem?_erase, if_neg (by rwa [Std.compare_eq_iff_eq])]
    simp only [attachTraces, htail, List.map_cons]
    congr 1
    exact List.map_congr_left fun d hd => by rw [hkept d hd]

/-- How ids of failed tests and traces split a population: those that failed keep their coverage and
are flagged, those that are left keep their flags and get what was traced for them, and both keep
their order. -/
structure SplitBy [LawfulChromosome γ] (ids : List UInt64) (traces : Traces)
    (everyone failed left : List γ) : Prop where
  failed_eq : failed = (everyone.filter fun c => Chromosome.id c ∈ ids).map (setFails · true)
  left_eq : left = (everyone.filter fun c => Chromosome.id c ∉ ids).map fun c =>
    setCoverage c (traces[Chromosome.id c]?.getD ∅)
  fails_failed : ∀ c ∈ failed, LawfulChromosome.fails c = true
  coverage_failed : failed.map LawfulChromosome.coverage =
    (everyone.filter fun c => Chromosome.id c ∈ ids).map LawfulChromosome.coverage
  fails_left : left.map LawfulChromosome.fails =
    (everyone.filter fun c => Chromosome.id c ∉ ids).map LawfulChromosome.fails
  coverage_left : ∀ c ∈ left, LawfulChromosome.coverage c = traces[Chromosome.id c]?.getD ∅
  ids_perm : ((failed ++ left).map Chromosome.id).Perm (everyone.map Chromosome.id)

theorem splitBy_failing_surviving [LawfulChromosome γ] (ids : List UInt64) (traces : Traces)
    {everyone : List γ} (hids : (everyone.map Chromosome.id).Nodup) :
    SplitBy ids traces everyone (failing ids everyone) (surviving ids traces everyone) := by
  have hfailed : failing ids everyone =
      (everyone.filter fun c => Chromosome.id c ∈ ids).map (setFails · true) := by
    simp only [failing, List.contains_eq_mem]
  have hleft : surviving ids traces everyone =
      (everyone.filter fun c => Chromosome.id c ∉ ids).map fun c =>
        setCoverage c (traces[Chromosome.id c]?.getD ∅) := by
    have hkept : ((everyone.filter fun c => !ids.contains (Chromosome.id c)).map
        Chromosome.id).Nodup := hids.sublist (List.filter_sublist.map _)
    rw [surviving, attachTraces_eq_map traces hkept]
    simp only [List.contains_eq_mem, decide_not]
  have hperm : ((everyone.filter fun c => Chromosome.id c ∈ ids) ++
      everyone.filter fun c => Chromosome.id c ∉ ids).Perm everyone := by
    simpa only [decide_not] using
      List.filter_append_perm (fun c => decide (Chromosome.id c ∈ ids)) everyone
  rw [hfailed, hleft]
  refine ⟨rfl, rfl, ?_, ?_, ?_, ?_, ?_⟩
  · intro c hc
    obtain ⟨d, -, rfl⟩ := List.mem_map.1 hc
    exact LawfulChromosome.fails_setFails d true
  · rw [List.map_map]
    exact List.map_congr_left fun c _ => LawfulChromosome.coverage_setFails c true
  · rw [List.map_map]
    exact List.map_congr_left fun c _ => LawfulChromosome.fails_setCoverage c _
  · intro c hc
    obtain ⟨d, -, rfl⟩ := List.mem_map.1 hc
    rw [LawfulChromosome.coverage_setCoverage, LawfulChromosome.id_setCoverage]
  · refine .trans (.of_eq ?_) (hperm.map Chromosome.id)
    simp only [List.map_append, List.map_map, Function.comp_def, LawfulChromosome.id_setFails,
      LawfulChromosome.id_setCoverage]

end Population

def Outcome.reported (o : Outcome) : List UInt64 :=
  if o.succeeded then [] else failedTests (Text.decodeLossy o.stdout)

theorem Outcome.reported_of_verdicts {o : Outcome} {ids : List UInt64}
    (h : verdicts o (Text.decodeLossy o.stdout) = some ids) : o.reported = ids := by
  unfold verdicts at h
  unfold reported
  by_cases hs : o.succeeded
  · rw [if_pos hs] at h ⊢
    exact Option.some.inj h
  · rw [if_neg hs] at h ⊢
    split at h
    · exact Option.some.inj h
    · exact nomatch h

namespace Runner

variable {W κ σ γ : Type} [Host (StateM W)] [TraceStore (StateM W) σ] [Chromosome γ]
  [Container (StateM W) κ γ] (r : Runner) (k : κ) (store : σ) (w : W)

theorem runTraced_of_judged {ids : List UInt64} {traces : Traces} {failed : List γ}
    (hjudged : (Cycle.exec (TracedCycle.judge r.config : TracedCycle κ σ (StateM W) _)
      (r.progress.started, ⟨k, store⟩, w)).1 = .ok (some (ids, traces)))
    (hok : ((r.runTraced k store : StateM W _).run w).1.1 = .ok (.ok failed)) :
    failed = failing ids (Container.chromosomes (m := StateM W) k) ∧
      ∃ w', ((r.runTraced k store : StateM W _).run w).1.2.2.container =
        ((Container.refresh (m := StateM W) (Container.withChromosomes (m := StateM W) k
          (surviving ids traces (Container.chromosomes (m := StateM W) k)))).run w').1.2 := by
  obtain ⟨hk, hp⟩ := TracedCycle.enters_judge (W := W) (κ := κ) (σ := σ) r.config
    r.progress.started (⟨k, store⟩, w)
  rw [runTraced_eq] at hok ⊢
  dsimp only at hok ⊢
  rw [TracedCycle.exec_traced] at hok ⊢
  rcases hend : Cycle.exec (TracedCycle.judge r.config : TracedCycle κ σ (StateM W) _)
    (r.progress.started, ⟨k, store⟩, w) with ⟨result, p, ⟨k', store'⟩, w'⟩
  rw [hend] at hk hp hjudged hok ⊢
  obtain rfl : k' = k := hk
  obtain rfl : result = .ok (some (ids, traces)) := hjudged
  dsimp only at hok ⊢
  rw [TracedCycle.exec_settle ids traces (hp _ rfl)] at hok ⊢
  dsimp only at hok ⊢
  rcases hw : (Container.refresh (m := StateM W) (Container.withChromosomes (m := StateM W) k'
      (surviving ids traces (Container.chromosomes (m := StateM W) k')))).run w'
    with ⟨⟨e | u, k''⟩, w''⟩ <;> rw [hw] at hok
  · exact nomatch hok
  · refine ⟨?_, w', by rw [hw]⟩
    cases hok
    rfl

/-- A cycle that ends well ran the build and the tests and drained the store, once each, and split
the population by what the tests reported and by what the store held. -/
theorem population_split_exact [LawfulChromosome γ] {failed : List γ}
    (hids : ((Container.chromosomes (m := StateM W) k).map Chromosome.id).Nodup)
    (hkeeps : Container.KeepsPopulation W κ)
    (hok : ((r.runTraced k store : StateM W _).run w).1.1 = .ok (.ok failed)) :
    ∃ env built tested traces,
      r.journal k store w =
        [.ran (r.config.instrumentCommand (Container.path (m := StateM W) k) env) (.ok built),
          .ran (r.config.tracedTestCommand (Container.path (m := StateM W) k) env) (.ok tested),
          .drained (.ok traces)] ∧
      SplitBy tested.reported traces (Container.chromosomes (m := StateM W) k) failed
        (Container.chromosomes (m := StateM W)
          ((r.runTraced k store : StateM W _).run w).1.2.2.container) := by
  obtain ⟨ids, traces, ⟨env, built, tested, hjournal, hverdicts⟩, hjudged⟩ :=
    judged_of_journal r k store w hok
  obtain ⟨hfailed, w', hleft⟩ := runTraced_of_judged r k store w hjudged hok
  refine ⟨env, built, tested, traces, hjournal, ?_⟩
  rw [Outcome.reported_of_verdicts hverdicts, hfailed, hleft, hkeeps.chromosomes_refresh,
    hkeeps.chromosomes_withChromosomes]
  exact splitBy_failing_surviving ids traces hids

inductive OneFailure
  | world

namespace OneFailure

def tracesFile : String := "traces.log"

instance : Host (StateM OneFailure) where
  readFile path :=
    pure (.ok (if path = tracesFile then "7 $mycrate::foo$ root\n".toUTF8 else .empty))
  writeFile _ _ := pure (.ok ())
  appendFile _ _ := pure (.ok ())
  removeFile _ := pure (.ok ())
  createDirs _ := pure (.ok ())
  listDir _ := pure (.ok [])
  isDir _ := pure true
  isFile _ := pure true
  pathExists _ := pure true
  currentDir := pure (.ok "/")
  now := pure 0
  run _ :=
    pure (.ok ⟨some 101, "test tests::case_3 ... FAILED\ntest result: FAILED\n".toUTF8, .empty⟩)

def container : SourceContainer := ⟨"crate", "crate", "src/lib.rs", "tests", [.new 3, .new 7]⟩

def cycleEnd : Except ExecError (RunStatus TestCase) × List TestCase :=
  (Runner.new {}).tracedEnd container (FileStore.mk tracesFile) world

def summary (out : Except ExecError (RunStatus TestCase) × List TestCase) :
    Option (List UInt64) × List (UInt64 × List (Block × Binary64)) :=
  let failed := match out.1 with
    | .ok (.ok failed) => some (failed.map TestCase.id)
    | _ => none
  (failed, out.2.map fun tc => (tc.id, tc.coverage.toList))

theorem summary_cycleEnd :
    summary cycleEnd = (some [3], [(7, [(⟨"mycrate::foo", 0⟩, .zero)])]) := by
  decide +kernel

theorem exists_failed :
    ∃ failed, cycleEnd.1 = .ok (.ok failed) ∧ failed.map TestCase.id = [3] := by
  have h := congrArg Prod.fst summary_cycleEnd
  dsimp only [summary] at h
  rcases hend : cycleEnd.1 with e | failed | - <;> rw [hend] at h
  · exact nomatch h
  · exact ⟨failed, rfl, Option.some.inj h⟩
  · exact nomatch h

end OneFailure

open OneFailure in
theorem one_failed_one_traced :
    (container.chromosomes.map TestCase.id).Nodup ∧
      Container.KeepsPopulation OneFailure SourceContainer ∧
      ∃ failed, cycleEnd.1 = .ok (.ok failed) ∧ failed.map TestCase.id = [3] ∧
        cycleEnd.2.map (fun tc => (tc.id, tc.coverage.toList)) =
          [(7, [(⟨"mycrate::foo", 0⟩, .zero)])] ∧
        ∃ tested traces, Event.drained (.ok traces) ∈
            (Runner.new {}).journal container (FileStore.mk tracesFile) world ∧
          SplitBy (Outcome.reported tested) traces container.chromosomes failed cycleEnd.2 := by
  have hids : (container.chromosomes.map TestCase.id).Nodup := by decide
  have hkeeps := SourceContainer.keepsPopulation OneFailure
  obtain ⟨failed, hok, hfailed⟩ := exists_failed
  have hrun : (((Runner.new {}).runTraced container (FileStore.mk tracesFile) :
      StateM OneFailure _).run world).1.1 = .ok (.ok failed) := hok
  obtain ⟨env, built, tested, traces, hjournal, hsplit⟩ :=
    population_split_exact (Runner.new {}) container (FileStore.mk tracesFile) world hids hkeeps
      hrun
  refine ⟨hids, hkeeps, failed, hok, hfailed, congrArg Prod.snd summary_cycleEnd, tested, traces,
    ?_, hsplit⟩
  rw [hjournal]
  simp

end Runner
end UnitTestGen
