import UnitTestGen.Proofs.TestCase.Lifetime

/-! What taking a value leaves of the variables. The value's own variable and every reference into
it are gone from the call on, also as receivers of methods. A reference that is taken itself is not:
it goes on following what it refers to. -/

namespace UnitTestGen

theorem Registry.notMem_methodsOf (r : Registry) {tc : TestCase} {v : Var}
    (hb : ¬ tc.isBorrowableAt v tc.size) (vars : List Var) (method : Callable) :
    (v, method) ∉ r.methodsOf tc vars := by
  intro hmem
  have hc : ¬ tc.isConsumableAt v tc.size := fun h => hb (Bool.and_eq_true_iff.1 h).1
  obtain ⟨m, _, hpair⟩ := List.mem_flatMap.1 hmem
  obtain ⟨w, hw, heq⟩ := List.mem_map.1 hpair
  obtain ⟨rfl, rfl⟩ : w = v ∧ m = method := by simpa using heq
  have hreceive : canReceive tc m w := (List.mem_filter.1 hw).2
  -- a receiver has to be borrowable or consumable, whichever way the method takes it
  unfold canReceive at hreceive
  obtain ⟨_, hlive⟩ := Bool.and_eq_true_iff.1 hreceive
  split at hlive
  · split at hlive
    · exact hb hlive
    · exact hc hlive
  · exact hc hlive

namespace TestCase

variable {tc : TestCase}

theorem Reaches.isBorrowableAt (hb : Built tc) {n : Nat} {r v : Var} (h : tc.Reaches n r v)
    {pos : Nat} (hr : tc.isBorrowableAt r pos) : tc.isBorrowableAt v pos := by
  induction h with
  | here v => exact hr
  | through hz _ ih =>
    obtain ⟨i, hi⟩ := hb.borrowed_eq_some_iff.1 hz
    exact ih ((hi.isBorrowableAt_iff hb pos).1 hr).2

theorem BoundByValue.lt_size {v : Var} {i : Nat} (h : tc.BoundByValue v i) : i < tc.size := by
  obtain ⟨s, c, hs, _⟩ := h
  exact (List.getElem?_eq_some_iff.1 hs).1

/-- A value that is neither copied nor a reference is gone from the call that takes it by value on,
with every reference into it, and no method can be called on any of them. A reference, mutable or
not and taken by value or not, can be borrowed from its definition on where its target can. -/
theorem moved_exact (hb : Built tc) :
    (∀ v i, ¬ v.ty.isRef → ¬ v.ty.isCopy → tc.BoundByValue v i → ∀ r n, tc.Reaches n r v →
      (∀ pos, i ≤ pos → ¬ tc.isBorrowableAt r pos ∧ ¬ tc.isConsumableAt r pos) ∧
      ∀ (registry : Registry) (vars : List Var) (method : Callable),
        (r, method) ∉ registry.methodsOf tc vars) ∧
    (∀ r target d, tc.BorrowedAt r target d → ∀ pos,
      (tc.isBorrowableAt r pos ↔ d < pos ∧ tc.isBorrowableAt target pos)) := by
  constructor
  · intro v i href hcopy hbound r n hreach
    have hdead : ∀ pos, i ≤ pos → ¬ tc.isBorrowableAt r pos := by
      intro pos hpos hr
      have hv : tc.isBorrowableAt v pos := hreach.isBorrowableAt hb hr
      rcases ((isBorrowableAt_iff_not_taken hb href pos).1 hv).2 with hc | hfree
      · exact hcopy hc
      · exact hfree i hpos hbound
    refine ⟨fun pos hpos => ⟨hdead pos hpos, fun hc => ?_⟩, fun registry vars method => ?_⟩
    · exact hdead pos hpos (Bool.and_eq_true_iff.1 hc).1
    · exact registry.notMem_methodsOf (hdead tc.size (Nat.le_of_lt hbound.lt_size)) vars method
  · intro r target d h pos
    exact h.isBorrowableAt_iff hb pos

theorem spent_reference_has_no_method :
    Built spent ∧ spent.BoundByValue token 4 ∧ spent.Reaches 2 tokenRefRef token ∧
      ∀ (registry : Registry) (method : Callable),
        (tokenRefRef, method) ∉ registry.methodsOf spent spent.definedVars := by
  have hreach : spent.Reaches 2 tokenRefRef token :=
    .through (z := tokenRef) (by decide) (.through (z := token) (by decide) (.here token))
  refine ⟨built_spent, boundByValue_spent, hreach, fun registry method => ?_⟩
  exact ((moved_exact built_spent).1 token 4 (by decide) (by decide) boundByValue_spent tokenRefRef
    2 hreach).2 registry spent.definedVars method

def keep : Callable :=
  ⟨"keep", .function, none, [⟨none, .generic "T" ∅⟩], none, [], .pub, none, none⟩

def tokenMut : Var := ⟨1, .ref tokenTy true⟩

def lent : TestCase where
  id := 1
  stmts := [⟨0, 1, .call ⟨mint, []⟩ (some token)⟩, ⟨1, 1, .borrow token true tokenMut⟩,
    ⟨2, 1, .call ⟨keep, [tokenMut]⟩ none⟩]
  nextVar := 2
  fails := false
  coverage := ∅

theorem built_lent : Built lent := by
  have referred := built_minted.borrow 1 token true (by decide)
  exact referred.call 2 keep [tokenMut] (by decide)
    (show TestCase.pushCall _ 2 keep [tokenMut] = .ok (none, lent) from rfl)

theorem not_forall_moved_dead :
    ¬ ∀ tc, Built tc → ∀ v i, ¬ v.ty.isCopy → tc.BoundByValue v i →
      (∀ pos, i ≤ pos → ¬ tc.isBorrowableAt v pos ∧ ¬ tc.isConsumableAt v pos) ∧
      ∀ (registry : Registry) (vars : List Var) (method : Callable),
        (v, method) ∉ registry.methodsOf tc vars := by
  intro h
  have hbound : lent.BoundByValue tokenMut 2 :=
    ⟨_, ⟨keep, [tokenMut]⟩, rfl, rfl, ⟨none, .generic "T" ∅⟩, by decide, by decide⟩
  have hdead := (h lent built_lent tokenMut 2 (by decide) hbound).1 3 (by decide)
  exact hdead.1 (by decide)

end TestCase
end UnitTestGen
