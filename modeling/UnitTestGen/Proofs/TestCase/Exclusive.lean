import UnitTestGen.Proofs.TestCase.Lifetime

/-! Calls that consume and borrow one variable at once. Consuming looks from a reference to what it
was taken of, and borrowing from a variable to the references taken of it, so the two meet when a
call takes a variable by value and is passed a reference to it as another argument. They meet in
that way only, and in particular not in a call with one argument. -/

namespace UnitTestGen.TestCase

variable {tc : TestCase}

/-- The call takes the variable by value, and another argument is a reference taken of it. -/
def TakesUnderReference (tc : TestCase) (c : Call) (x r : Var) : Prop :=
  c.takesByValue x ∧ r ∈ c.args ∧ tc.borrowed r = some x

theorem callConsumes_iff {c : Call} {v : Var} :
    tc.callConsumes c v ↔
      if v.ty.isRef then ∃ x, tc.borrowed v = some x ∧ c.takesByValue x else c.takesByValue v := by
  unfold callConsumes
  split
  · cases tc.borrowed v <;> simp
  · rfl

theorem Built.ty_of_borrowed (hb : Built tc) {r x : Var} (h : tc.borrowed r = some x) :
    ∃ mutable, r.ty = .ref x.ty mutable := by
  obtain ⟨i, hi⟩ := hb.borrowed_eq_some_iff.1 h
  exact hi.ty_eq hb

theorem Built.ne_of_borrowed (hb : Built tc) {r x : Var} (h : tc.borrowed r = some x) : r ≠ x := by
  rintro rfl
  obtain ⟨m, hty⟩ := hb.ty_of_borrowed h
  have hdepth : r.ty.refDepth = r.ty.refDepth + 1 := congrArg Ty.refDepth hty
  exact absurd hdepth (Nat.ne_of_lt (Nat.lt_succ_self _))

theorem mem_args_of_takesByValue {c : Call} {x : Var} (h : c.takesByValue x) : x ∈ c.args := by
  obtain ⟨p, hp, _⟩ := Call.takesByValue_iff.1 h
  exact (List.of_mem_zip hp).2

theorem consumes_and_borrows_iff (hb : Built tc) {c : Call} {v : Var} :
    tc.callConsumes c v ∧ tc.callBorrows c v ↔
      ∃ x r, tc.TakesUnderReference c x r ∧ (v = r ∨ v = x ∧ ¬ x.ty.isRef) := by
  rw [callConsumes_iff, callBorrows_iff hb]
  by_cases hv : v.ty.isRef
  · rw [if_pos hv, if_pos hv]
    constructor
    · rintro ⟨⟨x, hx, htakes⟩, hmem⟩
      exact ⟨x, v, ⟨htakes, hmem, hx⟩, .inl rfl⟩
    · rintro ⟨x, r, ⟨htakes, hmem, hr⟩, rfl | ⟨rfl, hx⟩⟩
      · exact ⟨⟨x, hr, htakes⟩, hmem⟩
      · exact absurd hv hx
  · rw [if_neg hv, if_neg hv]
    constructor
    · rintro ⟨htakes, r, hmem, hr⟩
      exact ⟨v, r, ⟨htakes, hmem, hr⟩, .inr ⟨rfl, hv⟩⟩
    · rintro ⟨x, r, ⟨htakes, hmem, hr⟩, rfl | ⟨rfl, _⟩⟩
      · exact absurd (hb.isRef_of_borrowed hr) hv
      · exact ⟨htakes, r, hmem, hr⟩

/-- A call consumes and borrows a variable exactly if it takes something by value that it is passed
a reference to, and the variable is this reference or, being no reference itself, what was taken. So
the two exclude each other in a call exactly if there is no such pair of arguments, and always in a
call with at most one argument. -/
theorem exclusive_exact (hb : Built tc) {s : Statement} (hs : s ∈ tc.stmts) {c : Call}
    (hc : s.asCall = some c) :
    (∀ v, (tc.consumes s v ∧ tc.borrows s v) ↔
      ∃ x r, tc.TakesUnderReference c x r ∧ (v = r ∨ v = x ∧ ¬ x.ty.isRef)) ∧
    ((∀ v ∈ tc.definedVars, ¬ (tc.consumes s v ∧ tc.borrows s v)) ↔
      ¬ ∃ x r, tc.TakesUnderReference c x r) ∧
    (c.args.length ≤ 1 → ∀ v, ¬ (tc.consumes s v ∧ tc.borrows s v)) := by
  obtain ⟨sid, owner, action⟩ := s
  cases action with
  | literal value w => cases hc
  | borrow target m w => cases hc
  | call c' result =>
    cases hc
    have hboth (v : Var) :
        (tc.consumes ⟨sid, owner, .call c result⟩ v ∧ tc.borrows ⟨sid, owner, .call c result⟩ v) ↔
          ∃ x r, tc.TakesUnderReference c x r ∧ (v = r ∨ v = x ∧ ¬ x.ty.isRef) :=
      consumes_and_borrows_iff hb
    refine ⟨hboth, ⟨?_, ?_⟩, ?_⟩
    · rintro hall ⟨x, r, htakes⟩
      obtain ⟨i, hi⟩ := List.mem_iff_getElem?.1 hs
      obtain ⟨j, _, hdef⟩ := hb.arg_definedAt hi htakes.2.1
      exact hall r (mem_definedVars.2 ⟨j, hdef⟩) ((hboth r).2 ⟨x, r, htakes, .inl rfl⟩)
    · intro hnone v _ hv
      obtain ⟨x, r, htakes, _⟩ := (hboth v).1 hv
      exact hnone ⟨x, r, htakes⟩
    · intro hlen v hv
      obtain ⟨x, r, ⟨htakes, hmem, hr⟩, _⟩ := (hboth v).1 hv
      have hx : x ∈ c.args := mem_args_of_takesByValue htakes
      -- what is taken and the reference to it are two arguments
      rcases hargs : c.args with _ | ⟨a, _ | ⟨b, as⟩⟩
      · rw [hargs] at hmem
        cases hmem
      · rw [hargs, List.mem_singleton] at hmem hx
        exact hb.ne_of_borrowed hr (hmem.trans hx.symm)
      · rw [hargs] at hlen
        exact absurd hlen (by simp)

def merge : Callable :=
  ⟨"merge", .function, none, [⟨none, tokenTy⟩, ⟨none, .ref tokenTy false⟩], none, [], .pub, none,
    none⟩

def merged : TestCase where
  id := 1
  stmts := [⟨0, 1, .call ⟨mint, []⟩ (some token)⟩, ⟨1, 1, .borrow token false tokenRef⟩,
    ⟨2, 1, .call ⟨merge, [token, tokenRef]⟩ none⟩]
  nextVar := 2
  fails := false
  coverage := ∅

theorem built_merged : Built merged := by
  have referred := built_minted.borrow 1 token false (by decide)
  exact referred.call 2 merge [token, tokenRef] (by decide)
    (show TestCase.pushCall _ 2 merge [token, tokenRef] = .ok (none, merged) from rfl)

theorem takesUnderReference_merged :
    merged.TakesUnderReference ⟨merge, [token, tokenRef]⟩ token tokenRef :=
  ⟨by decide, by decide, by decide⟩

theorem merged_consumed_and_borrowed :
    Built merged ∧ ∃ s ∈ merged.stmts, s.asCall = some ⟨merge, [token, tokenRef]⟩ ∧
      (merged.consumes s token ∧ merged.borrows s token) ∧
      (merged.consumes s tokenRef ∧ merged.borrows s tokenRef) := by
  refine ⟨built_merged, ⟨2, 1, .call ⟨merge, [token, tokenRef]⟩ none⟩, by simp [merged], rfl, ?_⟩
  have hboth := (exclusive_exact built_merged (by simp [merged])
    (s := ⟨2, 1, .call ⟨merge, [token, tokenRef]⟩ none⟩) rfl).1
  exact ⟨(hboth token).2 ⟨token, tokenRef, takesUnderReference_merged, .inr ⟨rfl, by decide⟩⟩,
    (hboth tokenRef).2 ⟨token, tokenRef, takesUnderReference_merged, .inl rfl⟩⟩

theorem not_forall_exclusive :
    ¬ ∀ tc, Built tc → ∀ s ∈ tc.stmts, ∀ c, s.asCall = some c → ∀ v ∈ tc.definedVars,
      ¬ (tc.consumes s v ∧ tc.borrows s v) := by
  intro h
  refine h merged built_merged ⟨2, 1, .call ⟨merge, [token, tokenRef]⟩ none⟩ (by simp [merged]) _
    rfl token (by decide) ⟨by decide, by decide⟩

end UnitTestGen.TestCase
