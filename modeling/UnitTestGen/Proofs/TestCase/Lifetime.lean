import UnitTestGen.Proofs.TestCase.Growth
import UnitTestGen.Proofs.TestCase.HiddenUse

/-! How long variables live. A reference lives where what it was taken of lives, from its own
definition on; a value that is no reference lives until a call takes it by value, or for good if it
is copied. Nothing comes back to life, neither at a later position nor when the test case grows. -/

namespace UnitTestGen

theorem Call.takesByValue_iff {c : Call} {v : Var} :
    c.takesByValue v ↔ ∃ p, (p, v) ∈ c.bindings ∧ ¬ p.ty.isRef := by
  unfold takesByValue
  rw [List.any_eq_true]
  constructor
  · rintro ⟨⟨p, a⟩, hmem, h⟩
    obtain ⟨ha, hp⟩ := Bool.and_eq_true_iff.1 h
    obtain rfl : a = v := eq_of_beq ha
    refine ⟨p, hmem, ?_⟩
    rw [← p.isByReference_eq_isRef]
    simpa using hp
  · rintro ⟨p, hmem, hp⟩
    rw [← p.isByReference_eq_isRef] at hp
    exact ⟨(p, v), hmem, by simpa using hp⟩

namespace TestCase

variable {tc tc' : TestCase}

theorem root_of_not_isRef {v : Var} (hv : ¬ v.ty.isRef) : tc.root v = v := by
  have hdepth : v.ty.refDepth = 0 := by
    cases hty : v.ty with
    | ref inner mutable => exact absurd (by rw [hty]; rfl) hv
    | _ => rfl
  unfold root
  rw [hdepth]
  rfl

theorem BorrowedAt.root_eq (hb : Built tc) {r target : Var} {i : Nat}
    (h : tc.BorrowedAt r target i) : tc.root r = tc.root target := by
  obtain ⟨m, hty⟩ := h.ty_eq hb
  have hborrowed : tc.borrowed r = some target := hb.borrowed_eq_some_iff.2 ⟨i, h⟩
  unfold root
  rw [hty, Ty.refDepth, followBorrows, hborrowed]

theorem isMovedBy_iff {v : Var} {pos : Nat} :
    tc.isMovedBy v pos ↔ ¬ (tc.root v).ty.isCopy ∧
      ∃ s ∈ tc.stmts.take (pos + 1), tc.consumes s (tc.root v) := by
  simp [isMovedBy]

theorem isMovedBy_iff_boundByValue {v : Var} (hv : ¬ v.ty.isRef) {pos : Nat} :
    tc.isMovedBy v pos ↔ ¬ v.ty.isCopy ∧ ∃ i ≤ pos, tc.BoundByValue v i := by
  have hconsumes (s : Statement) : tc.consumes s v ↔
      ∃ c, s.asCall = some c ∧ ∃ p, (p, v) ∈ c.bindings ∧ ¬ p.ty.isRef := by
    obtain ⟨sid, owner, action⟩ := s
    cases action with
    | literal value w => simp [consumes, Statement.asCall]
    | borrow t m w => simp [consumes, Statement.asCall]
    | call c w =>
      have hc : tc.callConsumes c v = c.takesByValue v := if_neg hv
      simp [consumes, Statement.asCall, hc, Call.takesByValue_iff]
  rw [isMovedBy_iff, root_of_not_isRef hv]
  refine and_congr_right fun _ => ?_
  constructor
  · rintro ⟨s, hs, hcons⟩
    obtain ⟨c, hc, hbound⟩ := (hconsumes s).1 hcons
    obtain ⟨i, hi⟩ := List.mem_iff_getElem?.1 hs
    rw [List.getElem?_take] at hi
    split at hi
    · rename_i hlt
      exact ⟨i, Nat.le_of_lt_succ hlt, s, c, hi, hc, hbound⟩
    · cases hi
  · rintro ⟨i, hi, s, c, hs, hc, hbound⟩
    refine ⟨s, ?_, (hconsumes s).2 ⟨c, hc, hbound⟩⟩
    rw [← List.getElem?_take_of_lt (Nat.lt_succ_of_le hi)] at hs
    exact List.mem_of_getElem? hs

theorem isMovedBy_mono {v : Var} {p q : Nat} (hpq : p ≤ q) (h : tc.isMovedBy v p) :
    tc.isMovedBy v q := by
  rw [isMovedBy_iff] at h ⊢
  obtain ⟨hcopy, s, hs, hcons⟩ := h
  have hsub : tc.stmts.take (p + 1) ⊆ tc.stmts.take (q + 1) :=
    (List.take_prefix_take_left (Nat.succ_le_succ hpq)).subset
  exact ⟨hcopy, s, hsub hs, hcons⟩

theorem isBorrowableAt_iff (hb : Built tc) {v : Var} {pos : Nat} :
    tc.isBorrowableAt v pos ↔ (∃ d < pos, tc.DefinedAt v d) ∧ ¬ tc.isMovedBy v pos := by
  unfold isBorrowableAt
  cases hpos : tc.definitionPosition v with
  | none =>
    refine ⟨fun h => absurd h Bool.false_ne_true, ?_⟩
    rintro ⟨⟨d, _, hd⟩, _⟩
    rw [hb.definitionPosition_eq_some_iff.2 hd] at hpos
    cases hpos
  | some d =>
    have hdef : tc.DefinedAt v d := hb.definitionPosition_eq_some_iff.1 hpos
    have hlt : (∃ e < pos, tc.DefinedAt v e) ↔ d < pos := by
      constructor
      · rintro ⟨e, he, hdef'⟩
        rw [hb.definedAt_unique hdef hdef']
        exact he
      · intro hd
        exact ⟨d, hd, hdef⟩
    simp [hlt]

theorem BorrowedAt.isBorrowableAt_iff (hb : Built tc) {r target : Var} {d : Nat}
    (h : tc.BorrowedAt r target d) (pos : Nat) :
    tc.isBorrowableAt r pos ↔ d < pos ∧ tc.isBorrowableAt target pos := by
  obtain ⟨e, he, htarget⟩ := h.target_definedAt hb
  have hmoved : tc.isMovedBy r pos ↔ tc.isMovedBy target pos := by
    rw [isMovedBy_iff, isMovedBy_iff, h.root_eq hb]
  rw [TestCase.isBorrowableAt_iff hb, TestCase.isBorrowableAt_iff hb, hmoved, ← and_assoc]
  refine and_congr_left fun _ => ?_
  constructor
  · rintro ⟨d', hd', hdef⟩
    rw [hb.definedAt_unique hdef h.definedAt] at hd'
    exact ⟨hd', e, Nat.lt_trans he hd', htarget⟩
  · rintro ⟨hd, _⟩
    exact ⟨d, hd, h.definedAt⟩

theorem isBorrowableAt_iff_not_taken (hb : Built tc) {v : Var} (hv : ¬ v.ty.isRef) (pos : Nat) :
    tc.isBorrowableAt v pos ↔ (∃ d < pos, tc.DefinedAt v d) ∧
      (v.ty.isCopy ∨ ∀ i ≤ pos, ¬ tc.BoundByValue v i) := by
  rw [isBorrowableAt_iff hb, isMovedBy_iff_boundByValue hv]
  refine and_congr_right fun _ => ?_
  rw [Classical.not_and_iff_not_or_not]
  simp

theorem isBorrowableAt_of_le (hb : Built tc) {v : Var} {p q : Nat} (hpq : p ≤ q)
    (hdef : ∃ d < p, tc.DefinedAt v d) (h : tc.isBorrowableAt v q) : tc.isBorrowableAt v p := by
  obtain ⟨_, hmoved⟩ := (isBorrowableAt_iff hb).1 h
  exact (isBorrowableAt_iff hb).2 ⟨hdef, fun hp => hmoved (isMovedBy_mono hpq hp)⟩

def SelfContained (tc : TestCase) : Prop := ∀ s ∈ tc.stmts, ∀ a ∈ s.args, a ∈ tc.definedVars

theorem Built.selfContained (hb : Built tc) : tc.SelfContained := by
  intro s hs a ha
  obtain ⟨i, hi⟩ := List.mem_iff_getElem?.1 hs
  obtain ⟨j, _, hj⟩ := hb.arg_definedAt hi ha
  exact mem_definedVars.2 ⟨j, hj⟩

namespace SelfContained

theorem target_mem (h : tc.SelfContained) {r target : Var} (hr : tc.borrowed r = some target) :
    target ∈ tc.definedVars := by
  obtain ⟨⟨sid, owner, action⟩, hs, ht⟩ := borrowed_mem hr
  refine h _ hs target ?_
  cases action with
  | borrow t m w => exact List.mem_singleton.2 (Option.some.inj ht).symm
  | literal value w => cases ht
  | call c w => cases ht

theorem followBorrows_mem (h : tc.SelfContained) {v : Var} (hv : v ∈ tc.definedVars) (n : Nat) :
    tc.followBorrows n v ∈ tc.definedVars := by
  induction n generalizing v with
  | zero => exact hv
  | succ n ih =>
    unfold followBorrows
    cases ht : tc.borrowed v with
    | none => exact hv
    | some target => exact ih (h.target_mem ht)

theorem followBorrows_congr (h : tc.SelfContained)
    (hsame : ∀ v ∈ tc.definedVars, tc'.borrowed v = tc.borrowed v) {v : Var}
    (hv : v ∈ tc.definedVars) (n : Nat) : tc'.followBorrows n v = tc.followBorrows n v := by
  induction n generalizing v with
  | zero => rfl
  | succ n ih =>
    unfold followBorrows
    rw [hsame v hv]
    cases ht : tc.borrowed v with
    | none => rfl
    | some target => exact ih (h.target_mem ht)

end SelfContained

theorem consumes_congr {v : Var} (hv : tc'.borrowed v = tc.borrowed v) (s : Statement) :
    tc'.consumes s v = tc.consumes s v := by
  obtain ⟨sid, owner, action⟩ := s
  cases action with
  | literal value w => rfl
  | borrow t m w => rfl
  | call c w =>
    simp only [consumes, callConsumes]
    rw [hv]

namespace Push

theorem borrowed_eq (h : Push tc tc') {v : Var} (hv : v ∈ tc.definedVars) :
    tc'.borrowed v = tc.borrowed v := by
  obtain ⟨_, s, hs, _⟩ := h.appends
  have hdef : (tc.definedBy v).isSome := by
    obtain ⟨t, ht, hres⟩ := List.mem_filterMap.1 hv
    exact List.find?_isSome.2 ⟨t, ht, by simp [hres]⟩
  have hsame : tc'.definedBy v = tc.definedBy v := by
    obtain ⟨t, ht⟩ := Option.isSome_iff_exists.1 hdef
    unfold definedBy at ht ⊢
    rw [hs, List.find?_append, ht]
    rfl
  unfold borrowed
  rw [hsame]

theorem root_eq (h : Push tc tc') (hb : Built tc) {v : Var} (hv : v ∈ tc.definedVars) :
    tc'.root v = tc.root v :=
  hb.selfContained.followBorrows_congr (fun _ hw => h.borrowed_eq hw) hv _

theorem isMovedBy (h : Push tc tc') (hb : Built tc) {v : Var} (hv : v ∈ tc.definedVars) {pos : Nat}
    (hm : tc.isMovedBy v pos) : tc'.isMovedBy v pos := by
  rw [isMovedBy_iff] at hm ⊢
  rw [h.root_eq hb hv]
  obtain ⟨hcopy, s, hs, hcons⟩ := hm
  have hroot : tc.root v ∈ tc.definedVars := hb.selfContained.followBorrows_mem hv _
  have hsub : tc.stmts.take (pos + 1) ⊆ tc'.stmts.take (pos + 1) := by
    obtain ⟨_, t, ht, _⟩ := h.appends
    rw [ht, List.take_append]
    exact List.subset_append_left _ _
  refine ⟨hcopy, s, hsub hs, ?_⟩
  rw [consumes_congr (h.borrowed_eq hroot)]
  exact hcons

theorem isBorrowableAt (h : Push tc tc') (hb : Built tc) {v : Var} (hv : v ∈ tc.definedVars)
    {pos : Nat} (hpos : tc'.isBorrowableAt v pos) : tc.isBorrowableAt v pos := by
  obtain ⟨⟨d, hd, hdef'⟩, hmoved⟩ := (isBorrowableAt_iff (hb.push h)).1 hpos
  obtain ⟨e, hdef⟩ := mem_definedVars.1 hv
  obtain rfl : e = d := (hb.push h).definedAt_unique (h.definedAt hdef) hdef'
  exact (isBorrowableAt_iff hb).2 ⟨⟨e, hd, hdef⟩, fun hm => hmoved (h.isMovedBy hb hv hm)⟩

end Push

theorem Built.grown (hb : Built tc) (h : Relation.ReflTransGen Push tc tc') : Built tc' := by
  induction h with
  | refl => exact hb
  | tail _ hstep ih => exact ih.push hstep

theorem isBorrowableAt_of_grown (hb : Built tc) (h : Relation.ReflTransGen Push tc tc') {v : Var}
    (hv : v ∈ tc.definedVars) {pos : Nat} (hpos : tc'.isBorrowableAt v pos) :
    tc.isBorrowableAt v pos := by
  have key : v ∈ tc'.definedVars ∧ (tc'.isBorrowableAt v pos → tc.isBorrowableAt v pos) := by
    clear hpos
    induction h with
    | refl => exact ⟨hv, fun h => h⟩
    | tail hgrown hstep ih =>
      obtain ⟨hmem, hback⟩ := ih
      obtain ⟨i, hi⟩ := mem_definedVars.1 hmem
      refine ⟨mem_definedVars.2 ⟨i, hstep.definedAt hi⟩, fun hpos => ?_⟩
      exact hback (hstep.isBorrowableAt (hb.grown hgrown) hmem hpos)
  exact key.2 hpos

/-- A reference can be borrowed from its definition on where its target can; a value that is no
reference can from its definition on until a call takes it, or always if it is copied; and what can
be borrowed later could be borrowed before, in the test case and in what it grew from. -/
theorem liveness_exact (hb : Built tc) (pos : Nat) :
    (∀ r target d, tc.BorrowedAt r target d →
      (tc.isBorrowableAt r pos ↔ d < pos ∧ tc.isBorrowableAt target pos)) ∧
    (∀ v, ¬ v.ty.isRef → (tc.isBorrowableAt v pos ↔ (∃ d < pos, tc.DefinedAt v d) ∧
      (v.ty.isCopy ∨ ∀ i ≤ pos, ¬ tc.BoundByValue v i))) ∧
    (∀ v later, pos ≤ later → (∃ d < pos, tc.DefinedAt v d) →
      tc.isBorrowableAt v later → tc.isBorrowableAt v pos) ∧
    (∀ tc', Relation.ReflTransGen Push tc tc' → ∀ v ∈ tc.definedVars,
      tc'.isBorrowableAt v pos → tc.isBorrowableAt v pos) := by
  refine ⟨?_, ?_, ?_, ?_⟩
  · intro r target d h
    exact h.isBorrowableAt_iff hb pos
  · intro v hv
    exact isBorrowableAt_iff_not_taken hb hv pos
  · intro v later hle hdef h
    exact isBorrowableAt_of_le hb hle hdef h
  · intro tc' h v hv hpos
    exact isBorrowableAt_of_grown hb h hv hpos

def spend : Callable := ⟨"spend", .function, none, [⟨none, tokenTy⟩], none, [], .pub, none, none⟩

def spent : TestCase :=
  { peeked with stmts := peeked.stmts ++ [⟨4, 1, .call ⟨spend, [token]⟩ none⟩] }

theorem push_spent : Push peeked spent :=
  .call 4 spend [token] (by decide)
    (show peeked.pushCall 4 spend [token] = .ok (none, spent) from rfl)

theorem boundByValue_spent : spent.BoundByValue token 4 :=
  ⟨_, ⟨spend, [token]⟩, rfl, rfl, ⟨none, tokenTy⟩, by decide, by decide⟩

theorem built_spent : Built spent := built_peeked.push push_spent

theorem reference_dies_with_spent_token :
    Built spent ∧ spent.isBorrowableAt tokenRefRef 3 ∧ ¬ spent.isBorrowableAt tokenRefRef 5 := by
  refine ⟨built_spent, by decide, fun h => ?_⟩
  obtain ⟨follows, taken, _⟩ := liveness_exact built_spent 5
  have outer : spent.BorrowedAt tokenRefRef tokenRef 2 := ⟨_, false, rfl, rfl⟩
  have inner : spent.BorrowedAt tokenRef token 1 := ⟨_, false, rfl, rfl⟩
  have htoken : spent.isBorrowableAt token 5 :=
    ((follows _ _ _ inner).1 ((follows _ _ _ outer).1 h).2).2
  rcases ((taken token (by decide)).1 htoken).2 with hcopy | hfree
  · exact absurd hcopy (by decide)
  · exact hfree 4 (by decide) boundByValue_spent

end TestCase
end UnitTestGen
