import Mathlib.Data.List.Dedup
import Mathlib.Data.List.Forall2
import UnitTestGen.Proofs.Trace.Lines
import UnitTestGen.Proofs.Trace.RoundTrip

/-! What is decoded from a sequence of lines. Each test has the coverage that its own facts leave,
and each block of it the least of the distances reported there. Distances of facts are numbers that
are not negative, so this least one depends neither on the order nor on the number of the lines. -/

namespace UnitTestGen

namespace Binary64

theorem lt_iff {d e : Binary64} (hd : ¬ d.isNaN) (he : ¬ e.isNaN) :
    d.lt e ↔ d.rank < e.rank := by
  simp [lt, hd, he]

theorem rank_nonneg {d : Binary64} (h : TraceFact.isDistance d) : 0 ≤ d.rank := by
  have hlt : ¬ d.lt .zero := by simpa using (Bool.and_eq_true_iff.1 h).2
  rw [lt_iff (not_isNaN_of_isDistance h) (by decide)] at hlt
  exact Int.not_lt.1 hlt

def keepLeast : Option Binary64 → Binary64 → Option Binary64
  | none, d => some d
  | some m, d => some (m.min d)

/-- The distance is one of the list and none of them is smaller; for no distances there is none. -/
def LeastOf : Option Binary64 → List Binary64 → Prop
  | none, ds => ds = []
  | some d, ds => d ∈ ds ∧ ∀ e ∈ ds, ¬ e.lt d

theorem LeastOf.keepLeast {kept : Option Binary64} {ds : List Binary64} {d : Binary64}
    (h : LeastOf kept ds) (hds : ∀ e ∈ ds, ¬ e.isNaN) (hd : ¬ d.isNaN) :
    LeastOf (keepLeast kept d) (ds ++ [d]) := by
  cases kept with
  | none =>
    obtain rfl : ds = [] := h
    refine ⟨List.mem_singleton_self d, fun e he => ?_⟩
    obtain rfl : e = d := by simpa using he
    simp [lt_irrefl]
  | some m =>
    obtain ⟨hm, hleast⟩ := h
    have hmin : m.min d = if m.lt d then m else d := if_neg hd
    rw [Binary64.keepLeast, hmin]
    have hrank : ∀ e ∈ ds, m.rank ≤ e.rank := by
      intro e he
      have hlt := hleast e he
      rw [lt_iff (hds e he) (hds m hm)] at hlt
      exact Int.not_lt.1 hlt
    split
    · rename_i hlt
      refine ⟨List.mem_append_left _ hm, fun e he => ?_⟩
      rcases List.mem_append.1 he with he | he
      · exact hleast e he
      · obtain rfl : e = d := by simpa using he
        rw [lt_iff (hds m hm) hd] at hlt
        rw [lt_iff hd (hds m hm)]
        exact Int.not_lt.2 (Int.le_of_lt hlt)
    · rename_i hlt
      rw [lt_iff (hds m hm) hd] at hlt
      refine ⟨List.mem_append_right _ (List.mem_singleton_self d), fun e he => ?_⟩
      rcases List.mem_append.1 he with he | he
      · have hle := hrank e he
        rw [lt_iff (hds e he) hd]
        omega
      · obtain rfl : e = d := by simpa using he
        simp [lt_irrefl]

theorem leastOf_foldl {ds : List Binary64} (hds : ∀ d ∈ ds, ¬ d.isNaN) :
    LeastOf (ds.foldl keepLeast none) ds := by
  induction ds using List.reverseRecOn with
  | nil => rfl
  | append_singleton ds d ih =>
    rw [List.foldl_concat]
    have hds' : ∀ e ∈ ds, ¬ e.isNaN := fun e he => hds e (List.mem_append_left _ he)
    exact (ih hds').keepLeast hds' (hds d (by simp))

end Binary64

namespace Coverage

def ofFacts (facts : List TraceFact) : Coverage :=
  facts.foldl (fun cov f => cov.record f.block f.distance) ∅

def distances (facts : List TraceFact) (b : Block) : List Binary64 :=
  (facts.filter (·.block = b)).map (·.distance)

theorem mem_distances {facts : List TraceFact} {b : Block} {d : Binary64} :
    d ∈ distances facts b ↔ ∃ f ∈ facts, f.block = b ∧ f.distance = d := by
  simp [distances, and_assoc]

theorem distances_eq_nil_iff {facts : List TraceFact} {b : Block} :
    distances facts b = [] ↔ ∀ f ∈ facts, f.block ≠ b := by
  simp [distances]

theorem distances_concat (facts : List TraceFact) (f : TraceFact) (b : Block) :
    distances (facts ++ [f]) b =
      if f.block = b then distances facts b ++ [f.distance] else distances facts b := by
  unfold distances
  rw [List.filter_append, List.map_append]
  by_cases hb : f.block = b <;> simp [hb]

theorem getElem?_ofFacts (facts : List TraceFact) (b : Block) :
    (ofFacts facts)[b]? = (distances facts b).foldl Binary64.keepLeast none := by
  unfold ofFacts
  induction facts using List.reverseRecOn with
  | nil => rfl
  | append_singleton facts f ih =>
    rw [List.foldl_concat, getElem?_record, distances_concat]
    split
    · rename_i hb
      rw [List.foldl_concat, hb, ih]
      cases (distances facts b).foldl Binary64.keepLeast none <;> rfl
    · exact ih

structure LeastDistances (facts : List TraceFact) (cov : Coverage) : Prop where
  blocks (b : Block) : b ∈ cov ↔ ∃ f ∈ facts, f.block = b
  attained {b : Block} {d : Binary64} (h : cov[b]? = some d) :
    ∃ f ∈ facts, f.block = b ∧ f.distance = d
  least {b : Block} {d : Binary64} (h : cov[b]? = some d) :
    ∀ f ∈ facts, f.block = b → ¬ f.distance.lt d

section Facts

variable {facts : List TraceFact} (hfacts : ∀ f ∈ facts, TraceFact.isDistance f.distance)

include hfacts in
theorem leastDistances_ofFacts : LeastDistances facts (ofFacts facts) := by
  have hleast : ∀ b, Binary64.LeastOf (ofFacts facts)[b]? (distances facts b) := by
    intro b
    rw [getElem?_ofFacts]
    apply Binary64.leastOf_foldl
    intro d hd
    obtain ⟨f, hf, _, rfl⟩ := mem_distances.1 hd
    exact Binary64.not_isNaN_of_isDistance (hfacts f hf)
  constructor
  case blocks =>
    intro b
    rw [Std.ExtTreeMap.mem_iff_isSome_getElem?]
    have hb := hleast b
    cases hcov : (ofFacts facts)[b]? with
    | none =>
      rw [hcov] at hb
      have hnone := distances_eq_nil_iff.1 hb
      simpa using hnone
    | some d =>
      rw [hcov] at hb
      obtain ⟨f, hf, hfb, _⟩ := mem_distances.1 hb.1
      simpa using ⟨f, hf, hfb⟩
  case attained =>
    intro b d hd
    have hb := hleast b
    rw [hd] at hb
    exact mem_distances.1 hb.1
  case least =>
    intro b d hd f hf hfb
    have hb := hleast b
    rw [hd] at hb
    exact hb.2 _ (mem_distances.2 ⟨f, hf, hfb, rfl⟩)

include hfacts in
theorem LeastDistances.rank_le {cov : Coverage} (h : LeastDistances facts cov) {b : Block}
    {d : Binary64} (hd : cov[b]? = some d) {f : TraceFact} (hf : f ∈ facts) (hb : f.block = b) :
    d.rank ≤ f.distance.rank := by
  obtain ⟨g, hg, _, rfl⟩ := h.attained hd
  have hlt := h.least hd f hf hb
  rw [Binary64.lt_iff (Binary64.not_isNaN_of_isDistance (hfacts f hf))
    (Binary64.not_isNaN_of_isDistance (hfacts g hg))] at hlt
  exact Int.not_lt.1 hlt

include hfacts in
theorem LeastDistances.zero_iff {cov : Coverage} (h : LeastDistances facts cov) {b : Block} :
    (∃ d, cov[b]? = some d ∧ d.numEq .zero) ↔
      ∃ f ∈ facts, f.distance.numEq .zero ∧ f.block = b := by
  constructor
  · rintro ⟨d, hd, hzero⟩
    obtain ⟨f, hf, hfb, rfl⟩ := h.attained hd
    exact ⟨f, hf, hzero, hfb⟩
  · rintro ⟨f, hf, hzero, hfb⟩
    have hb : b ∈ cov := (h.blocks b).2 ⟨f, hf, hfb⟩
    rw [Std.ExtTreeMap.mem_iff_isSome_getElem?, Option.isSome_iff_exists] at hb
    obtain ⟨d, hd⟩ := hb
    obtain ⟨g, hg, _, rfl⟩ := h.attained hd
    have hnan : ¬ g.distance.isNaN := Binary64.not_isNaN_of_isDistance (hfacts g hg)
    have hle : g.distance.rank ≤ f.distance.rank := h.rank_le hfacts hd hf hfb
    have hnonneg : 0 ≤ g.distance.rank := Binary64.rank_nonneg (hfacts g hg)
    rw [Binary64.numEq_iff (Binary64.not_isNaN_of_isDistance (hfacts f hf)) (by decide)] at hzero
    refine ⟨_, hd, (Binary64.numEq_iff hnan (by decide)).2 ?_⟩
    rw [hzero] at hle
    exact Int.le_antisymm hle hnonneg

include hfacts in
theorem LeastDistances.coveredBlocks_eq {cov : Coverage} (h : LeastDistances facts cov) :
    cov.coveredBlocks =
      ((facts.filter fun f => f.distance.numEq .zero).map (·.block)).dedup.length := by
  have hlength : cov.coveredBlocks =
      ((cov.toList.filter fun p => p.2.numEq .zero).map Prod.fst).length := by
    rw [List.length_map, ← List.countP_eq_length_filter]
    rfl
  have hnodup : ((cov.toList.filter fun p => p.2.numEq .zero).map Prod.fst).Nodup := by
    have hsub : ((cov.toList.filter fun p => p.2.numEq .zero).map Prod.fst).Sublist
        (cov.toList.map Prod.fst) := List.filter_sublist.map _
    rw [Std.ExtTreeMap.map_fst_toList_eq_keys] at hsub
    exact hsub.nodup Std.ExtTreeMap.nodup_keys
  rw [hlength]
  apply List.Perm.length_eq
  rw [List.perm_ext_iff_of_nodup hnodup (List.nodup_dedup _)]
  intro b
  have hfound := h.zero_iff hfacts (b := b)
  simpa [Std.ExtTreeMap.mem_toList_iff_getElem?_eq_some, and_assoc] using hfound

theorem agrees_of_forall {a b : Coverage} (hkeys : ∀ k, k ∈ a ↔ k ∈ b)
    (hnum : ∀ (k : Block) (d e : Binary64), a[k]? = some d → b[k]? = some e → d.numEq e) :
    a.agrees b := by
  have hunit : a.map (fun _ _ => ()) = b.map (fun _ _ => ()) := by
    apply Std.ExtTreeMap.ext_getElem?
    intro k
    have hk := hkeys k
    rw [Std.ExtTreeMap.mem_iff_isSome_getElem?, Std.ExtTreeMap.mem_iff_isSome_getElem?] at hk
    rw [Std.ExtTreeMap.getElem?_map, Std.ExtTreeMap.getElem?_map]
    cases ha : a[k]? <;> cases hb : b[k]? <;> simp [ha, hb] at hk ⊢
  have hsame : List.Forall₂ (fun p q => p.1 = q.1) a.toList b.toList := by
    have hfst := congrArg (fun m => m.toList.map Prod.fst) hunit
    simp only [Std.ExtTreeMap.toList_map, List.map_map] at hfst
    rw [← List.forall₂_eq_eq_eq, List.forall₂_map_left_iff, List.forall₂_map_right_iff] at hfst
    exact hfst
  unfold agrees
  rw [Bool.and_eq_true_iff, beq_iff_eq, ← Std.ExtTreeMap.length_toList,
    ← Std.ExtTreeMap.length_toList, List.all_eq_true]
  refine ⟨hsame.length_eq, ?_⟩
  rintro ⟨⟨k, d⟩, ⟨k', e⟩⟩ hp
  obtain rfl : k = k' := List.forall₂_zip hsame hp
  obtain ⟨hd, he⟩ := List.of_mem_zip hp
  rw [Std.ExtTreeMap.mem_toList_iff_getElem?_eq_some] at hd he
  simpa using hnum k d e hd he

include hfacts in
theorem LeastDistances.agrees {facts' : List TraceFact} {cov cov' : Coverage}
    (h : LeastDistances facts cov) (h' : LeastDistances facts' cov')
    (hmem : ∀ f, f ∈ facts ↔ f ∈ facts') : cov.agrees cov' := by
  have hfacts' : ∀ f ∈ facts', TraceFact.isDistance f.distance :=
    fun f hf => hfacts f ((hmem f).2 hf)
  apply agrees_of_forall
  · intro b
    simp [h.blocks b, h'.blocks b, hmem]
  · intro b d e hd he
    obtain ⟨f, hf, hfb, rfl⟩ := h.attained hd
    obtain ⟨g, hg, hgb, rfl⟩ := h'.attained he
    have hle : f.distance.rank ≤ g.distance.rank := h.rank_le hfacts hd ((hmem g).2 hg) hgb
    have hle' : g.distance.rank ≤ f.distance.rank := h'.rank_le hfacts' he ((hmem f).1 hf) hfb
    rw [Binary64.numEq_iff (Binary64.not_isNaN_of_isDistance (hfacts f hf))
      (Binary64.not_isNaN_of_isDistance (hfacts' g hg))]
    exact Int.le_antisymm hle hle'

end Facts

end Coverage

namespace Traces

def factOf (l : String) : Option TraceFact :=
  match TraceFact.ofLine l with
  | .ok f => f
  | .error _ => none

def facts (ls : List String) : List TraceFact := ls.filterMap factOf

theorem mem_facts {ls : List String} {f : TraceFact} :
    f ∈ facts ls ↔ ∃ l ∈ ls, TraceFact.ofLine l = .ok (some f) := by
  unfold facts factOf
  rw [List.mem_filterMap]
  refine exists_congr fun l => and_congr_right fun _ => ?_
  cases TraceFact.ofLine l <;> simp

theorem isDistance_of_mem_facts {ls : List String} {f : TraceFact} (hf : f ∈ facts ls) :
    TraceFact.isDistance f.distance := by
  obtain ⟨l, _, hl⟩ := mem_facts.1 hf
  exact TraceFact.isDistance_of_ofLine hl

theorem getElem?_add (traces : Traces) (f : TraceFact) (id : UInt64) :
    (traces.add f)[id]? =
      if f.testId = id then some ((traces[id]?.getD ∅).record f.block f.distance)
      else traces[id]? := by
  simp only [add, Std.ExtTreeMap.getElem?_alter, Std.compare_eq_iff_eq]
  split
  · rename_i hid
    rw [hid]
  · rfl

theorem getElem?_foldl_add (fs : List TraceFact) (id : UInt64) :
    (fs.foldl add ∅)[id]? = if ∃ f ∈ fs, f.testId = id
      then some (Coverage.ofFacts (fs.filter (·.testId = id))) else none := by
  induction fs using List.reverseRecOn with
  | nil => simp
  | append_singleton fs f ih =>
    rw [List.foldl_concat, getElem?_add, List.filter_append]
    by_cases hid : f.testId = id
    · have hfound : ∃ g ∈ fs ++ [f], g.testId = id := ⟨f, by simp, hid⟩
      have hsofar : (fs.foldl add ∅)[id]?.getD ∅ =
          Coverage.ofFacts (fs.filter (·.testId = id)) := by
        rw [ih]
        split
        · rfl
        · rename_i hnone
          have hnil : fs.filter (·.testId = id) = [] := by simpa using hnone
          rw [hnil]
          rfl
      have hown : [f].filter (·.testId = id) = [f] := by simp [hid]
      rw [if_pos hid, if_pos hfound, hsofar, hown]
      unfold Coverage.ofFacts
      rw [List.foldl_concat]
    · simp [hid, ih]

theorem mapM_ofLine_of_ok {ls : List String} (h : ∀ l ∈ ls, (TraceFact.ofLine l).isOk) :
    ls.mapM TraceFact.ofLine = .ok (ls.map factOf) := by
  induction ls with
  | nil => rfl
  | cons l ls ih =>
    have hl : TraceFact.ofLine l = .ok (factOf l) := by
      have hok := h l List.mem_cons_self
      unfold factOf
      cases hl : TraceFact.ofLine l with
      | ok f => rfl
      | error e =>
        rw [hl] at hok
        cases hok
    rw [List.mapM_cons, hl, ih fun k hk => h k (List.mem_cons_of_mem l hk)]
    rfl

theorem ofLines_of_ok {ls : List String} (h : ∀ l ∈ ls, (TraceFact.ofLine l).isOk) :
    ofLines ls = .ok ((facts ls).foldl add ∅) := by
  have hfacts : (ls.map factOf).filterMap id = facts ls := by
    rw [List.filterMap_map]
    rfl
  unfold ofLines
  rw [mapM_ofLine_of_ok h, ← hfacts]
  rfl

theorem ofLines_of_error {before after : List String} {l : String} {e : TraceError}
    (hbefore : ∀ k ∈ before, (TraceFact.ofLine k).isOk) (hl : TraceFact.ofLine l = .error e) :
    ofLines (before ++ l :: after) = .error e := by
  unfold ofLines
  rw [List.mapM_append, mapM_ofLine_of_ok hbefore, List.mapM_cons, hl]
  rfl

def Agree (a b : Traces) : Prop := ∀ id : UInt64, Option.Rel (fun c d => c.agrees d) a[id]? b[id]?

theorem agree_of_mem_iff {ls ls' : List String}
    (hmem : ∀ f, f ∈ facts ls ↔ f ∈ facts ls') :
    Agree ((facts ls).foldl add ∅) ((facts ls').foldl add ∅) := by
  intro id
  have hfound : (∃ f ∈ facts ls, f.testId = id) ↔ ∃ f ∈ facts ls', f.testId = id := by
    simp only [hmem]
  have hown : ∀ ls, ∀ f ∈ (facts ls).filter (·.testId = id), TraceFact.isDistance f.distance :=
    fun ls f hf => isDistance_of_mem_facts (List.mem_of_mem_filter hf)
  rw [getElem?_foldl_add, getElem?_foldl_add]
  split
  · rename_i h
    rw [if_pos (hfound.1 h)]
    apply Option.Rel.some
    apply (Coverage.leastDistances_ofFacts (hown ls)).agrees (hown ls)
      (Coverage.leastDistances_ofFacts (hown ls'))
    simp [hmem]
  · rename_i h
    rw [if_neg (mt hfound.2 h)]
    exact .none

/-- The first line that is no line of a fact and no log output decides; without such a line, each
test that is reported has its blocks at the least of the distances reported for them, and the same
lines in another order and number, among other log output, tell the same. -/
theorem ofLines_exact (ls : List String) :
    (∀ before l after e, ls = before ++ l :: after → (∀ k ∈ before, (TraceFact.ofLine k).isOk) →
      TraceFact.ofLine l = .error e → ofLines ls = .error e) ∧
    ((∀ l ∈ ls, (TraceFact.ofLine l).isOk) → ∃ traces, ofLines ls = .ok traces ∧
      (∀ id, id ∈ traces ↔ ∃ f ∈ facts ls, f.testId = id) ∧
      (∀ (id : UInt64) cov, traces[id]? = some cov →
        Coverage.LeastDistances ((facts ls).filter (·.testId = id)) cov ∧
        cov.coveredBlocks = (((facts ls).filter fun f =>
          f.testId = id ∧ f.distance.numEq .zero).map (·.block)).dedup.length) ∧
      ∀ ls', (∀ l ∈ ls', l ∈ ls ∨ TraceFact.ofLine l = .ok none) →
        (∀ l ∈ ls, l ∈ ls' ∨ TraceFact.ofLine l = .ok none) →
        ∃ traces', ofLines ls' = .ok traces' ∧ traces.Agree traces') := by
  refine ⟨fun before l after e hls hbefore hl => ?_, fun hok => ?_⟩
  · subst hls
    exact ofLines_of_error hbefore hl
  refine ⟨_, ofLines_of_ok hok, fun id => ?_, fun id cov hcov => ?_, fun ls' hls' hls => ?_⟩
  · rw [Std.ExtTreeMap.mem_iff_isSome_getElem?, getElem?_foldl_add]
    split <;> simp_all
  · rw [getElem?_foldl_add, Option.ite_none_right_eq_some] at hcov
    obtain ⟨_, hcov⟩ := hcov
    obtain rfl := Option.some.inj hcov
    have hown : ∀ f ∈ (facts ls).filter (·.testId = id), TraceFact.isDistance f.distance :=
      fun f hf => isDistance_of_mem_facts (List.mem_of_mem_filter hf)
    have hleast := Coverage.leastDistances_ofFacts hown
    refine ⟨hleast, ?_⟩
    rw [hleast.coveredBlocks_eq hown, List.filter_filter]
    simp [Bool.and_comm]
  · have hok' : ∀ l ∈ ls', (TraceFact.ofLine l).isOk := by
      intro l hl
      rcases hls' l hl with hl | hl
      · exact hok l hl
      · rw [hl]
        rfl
    refine ⟨_, ofLines_of_ok hok', agree_of_mem_iff fun f => ?_⟩
    rw [mem_facts, mem_facts]
    constructor
    · rintro ⟨l, hl, hf⟩
      rcases hls l hl with hl' | hnone
      · exact ⟨l, hl', hf⟩
      · rw [hnone] at hf
        cases hf
    · rintro ⟨l, hl, hf⟩
      rcases hls' l hl with hl' | hnone
      · exact ⟨l, hl', hf⟩
      · rw [hnone] at hf
        cases hf

def mixedLines : List String :=
  ["7 $f$ branch[3 0]", "7 $f$ branch[3 -0]", "7 tests passed", "8 $f$ branch[3 0.5]"]

theorem ofLines_mixedLines :
    (∀ l ∈ mixedLines, (TraceFact.ofLine l).isOk) ∧
      (∃ traces traces', ofLines mixedLines = .ok traces ∧
        ofLines (mixedLines.reverse ++ mixedLines) = .ok traces' ∧ traces.Agree traces') ∧
      ofLines (mixedLines ++ ["7 $f$ jump"]) = .error (.unknownKind "jump" "7 $f$ jump") := by
  have hok : ∀ l ∈ mixedLines, (TraceFact.ofLine l).isOk := by decide +kernel
  obtain ⟨traces, htraces, _, _, hsame⟩ := (ofLines_exact mixedLines).2 hok
  obtain ⟨traces', htraces', hagree⟩ :=
    hsame (mixedLines.reverse ++ mixedLines) (by simp +contextual) (by simp +contextual)
  have hjump : TraceFact.ofLine "7 $f$ jump" = .error (.unknownKind "jump" "7 $f$ jump") := by
    decide +kernel
  exact ⟨hok, ⟨traces, traces', htraces, htraces', hagree⟩,
    (ofLines_exact _).1 mixedLines _ [] _ rfl hok hjump⟩

end Traces

end UnitTestGen
