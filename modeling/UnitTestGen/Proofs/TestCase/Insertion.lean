import UnitTestGen.Proofs.TestCase.Descent
import UnitTestGen.Proofs.TestCase.Lifetime

/-! Putting in a statement that defines none of the variables there are. What is in front of it stays
where it is and what is behind it moves on by one place, and what a reference was taken of does not
change at all. So every variable lives as before, one place later from there on, unless the statement
itself takes what the variable refers to. -/

namespace UnitTestGen.TestCase

variable {tc tc' : TestCase} {s : Statement} {before after : List Statement}

structure Inserted (tc tc' : TestCase) (s : Statement) (before after : List Statement) : Prop where
  old : tc.stmts = before ++ after
  new : tc'.stmts = before ++ s :: after

theorem insertIdx_eq_append {α : Type} (a : α) (l : List α) {i : Nat} (hi : i ≤ l.length) :
    l.insertIdx i a = l.take i ++ a :: l.drop i := by
  induction l generalizing i with
  | nil =>
    obtain rfl : i = 0 := Nat.le_zero.1 hi
    rfl
  | cons b l ih =>
    cases i with
    | zero => rfl
    | succ i =>
      rw [List.insertIdx_succ_cons, ih (Nat.le_of_succ_le_succ hi)]
      rfl

theorem exists_insert (howner : s.owner = tc.id) {q : Nat} (hq : q ≤ tc.size) :
    ∃ tc' before after, tc.insert q s = .ok tc' ∧ tc'.remove q = .ok (s, tc) ∧
      before.length = q ∧ Inserted tc tc' s before after := by
  have hlen : q ≤ tc.stmts.length := hq
  refine ⟨{ tc with stmts := tc.stmts.insertIdx q s }, tc.stmts.take q, tc.stmts.drop q, ?_, ?_,
    List.length_take_of_le hlen, (List.take_append_drop q tc.stmts).symm,
    insertIdx_eq_append s tc.stmts hlen⟩
  · rw [insert, if_neg (Decidable.not_not.2 howner), if_neg (Nat.not_lt.2 hq)]
  · have hget : (tc.stmts.insertIdx q s)[q]? = some s := by
      rw [List.getElem?_insertIdx_self, if_pos hlen]
    simp only [remove, hget, List.eraseIdx_insertIdx_self]

namespace Inserted

theorem definedBy_eq (h : Inserted tc tc' s before after) {v : Var} (hv : s.result ≠ some v) :
    tc'.definedBy v = tc.definedBy v := by
  have hs : (s.result == some v) = false := by simpa using hv
  unfold definedBy
  rw [h.old, h.new, List.find?_append, List.find?_append, List.find?_cons, hs]

theorem borrowed_eq (h : Inserted tc tc' s before after) {v : Var} (hv : s.result ≠ some v) :
    tc'.borrowed v = tc.borrowed v := by
  unfold borrowed
  rw [h.definedBy_eq hv]

theorem definitionPosition_eq (h : Inserted tc tc' s before after) {v : Var}
    (hv : s.result ≠ some v) :
    tc'.definitionPosition v =
      (tc.definitionPosition v).map fun d => if d < before.length then d else d + 1 := by
  have hs : ¬ (s.result == some v) := by simpa using hv
  unfold definitionPosition
  rw [h.old, h.new, List.findIdx?_append, List.findIdx?_append, List.findIdx?_cons, if_neg hs]
  cases hb : before.findIdx? (fun t => t.result == some v) with
  | some d =>
    have hd : d < before.length := (List.findIdx?_eq_some_iff_getElem.1 hb).1
    simp [hd]
  | none =>
    cases after.findIdx? (fun t => t.result == some v) with
    | none => rfl
    | some d =>
      have hd : ¬ d + before.length < before.length := by omega
      simp [hd]
      omega

variable (h : Inserted tc tc' s before after) (hown : tc.SelfContained)
  (hnew : ∀ r ∈ s.result, r ∉ tc.definedVars)

include h hnew in
theorem borrowed_of_mem {v : Var} (hv : v ∈ tc.definedVars) : tc'.borrowed v = tc.borrowed v :=
  h.borrowed_eq fun hs => hnew v hs hv

include h hown hnew

theorem root_eq {v : Var} (hv : v ∈ tc.definedVars) : tc'.root v = tc.root v :=
  hown.followBorrows_congr (fun _ hw => h.borrowed_of_mem hnew hw) hv _

theorem consumes_root_eq {v : Var} (hv : v ∈ tc.definedVars) (t : Statement) :
    tc'.consumes t (tc.root v) = tc.consumes t (tc.root v) :=
  consumes_congr (h.borrowed_of_mem hnew (hown.followBorrows_mem hv _)) t

theorem isMovedBy_before {v : Var} (hv : v ∈ tc.definedVars) {p : Nat} (hp : p < before.length) :
    tc'.isMovedBy v p = tc.isMovedBy v p := by
  unfold isMovedBy
  rw [h.root_eq hown hnew hv, h.old, h.new, List.take_append_of_le_length hp,
    List.take_append_of_le_length hp]
  simp only [h.consumes_root_eq hown hnew hv]

theorem isMovedBy_after {v : Var} (hv : v ∈ tc.definedVars) {p : Nat} (hp : before.length ≤ p) :
    tc'.isMovedBy v (p + 1) =
      (tc.isMovedBy v p || !(tc.root v).ty.isCopy && tc.consumes s (tc.root v)) := by
  have hold : tc.stmts.take (p + 1) = before ++ after.take (p + 1 - before.length) := by
    rw [h.old, List.take_append, List.take_of_length_le (Nat.le_succ_of_le hp)]
  have hskip : tc'.stmts.take (p + 1 + 1) = before ++ s :: after.take (p + 1 - before.length) := by
    have hsub : p + 1 + 1 - before.length = (p + 1 - before.length) + 1 := by omega
    rw [h.new, List.take_append, List.take_of_length_le (by omega), hsub, List.take_succ_cons]
  unfold isMovedBy
  rw [h.root_eq hown hnew hv, hold, hskip]
  simp only [List.any_append, List.any_cons, h.consumes_root_eq hown hnew hv]
  cases (tc.root v).ty.isCopy <;> simp [Bool.or_comm, Bool.or_left_comm]

theorem isBorrowableAt_before {v : Var} (hv : v ∈ tc.definedVars) {p : Nat}
    (hp : p < before.length) : tc'.isBorrowableAt v p = tc.isBorrowableAt v p := by
  have hs : s.result ≠ some v := fun hs => hnew v hs hv
  unfold isBorrowableAt
  rw [h.definitionPosition_eq hs, h.isMovedBy_before hown hnew hv hp]
  cases tc.definitionPosition v with
  | none => rfl
  | some d =>
    have hlt : (if d < before.length then d else d + 1) < p ↔ d < p := by
      split <;> omega
    simp only [Option.map_some, hlt]

theorem isBorrowableAt_after {v : Var} (hv : v ∈ tc.definedVars) {p : Nat}
    (hp : before.length ≤ p) : tc'.isBorrowableAt v (p + 1) =
      (tc.isBorrowableAt v p && !(!(tc.root v).ty.isCopy && tc.consumes s (tc.root v))) := by
  have hs : s.result ≠ some v := fun hs => hnew v hs hv
  unfold isBorrowableAt
  rw [h.definitionPosition_eq hs, h.isMovedBy_after hown hnew hv hp]
  cases tc.definitionPosition v with
  | none => rfl
  | some d =>
    have hlt : (if d < before.length then d else d + 1) < p + 1 ↔ d < p := by
      split <;> omega
    simp only [Option.map_some, hlt, Bool.not_or, Bool.and_assoc]

end Inserted

theorem not_consumes_of_not_takesByValue {v : Var} (hv : tc.borrowed v = none)
    (hs : ∀ c ∈ s.asCall, ¬ c.takesByValue v) : tc.consumes s v = false := by
  obtain ⟨sid, owner, action⟩ := s
  cases action with
  | literal value w => rfl
  | borrow t m w => rfl
  | call c w =>
    have hc : c.takesByValue v = false := Bool.eq_false_iff.2 (hs c rfl)
    simp [consumes, callConsumes, hv, hc]

theorem Inserted.isBorrowableAt_shifted (h : Inserted tc tc' s before after)
    (hlayered : tc.Layered) (hown : tc.SelfContained) (hnew : ∀ r ∈ s.result, r ∉ tc.definedVars)
    {v : Var} (hv : v ∈ tc.definedVars)
    (htakes : ∀ r n, tc.Reaches n v r → tc.borrowed r = none → ∀ c ∈ s.asCall, ¬ c.takesByValue r) :
    (∀ p < before.length, tc'.isBorrowableAt v p = tc.isBorrowableAt v p) ∧
      ∀ p ≥ before.length, tc'.isBorrowableAt v (p + 1) = tc.isBorrowableAt v p := by
  refine ⟨fun p hp => h.isBorrowableAt_before hown hnew hv hp, fun p hp => ?_⟩
  obtain ⟨n, hreach⟩ := hlayered.reaches_root v
  have hend : tc.borrowed (tc.root v) = none := hlayered.borrowed_root v
  have hconsumes : tc.consumes s (tc.root v) = false :=
    not_consumes_of_not_takesByValue hend (htakes _ n hreach hend)
  rw [h.isBorrowableAt_after hown hnew hv hp, hconsumes, Bool.and_false, Bool.not_false,
    Bool.and_true]

/-- A statement of the same owner that defines no variable of the test case can be put in at any
position and taken out again. In between, every variable of the test case for which the statement
does not take what it refers to can be borrowed where it could before, one position later from the
new statement on. The statements there are have to be well-formed, as all are that operations lead
to, and to use variables of the test case only; a variable may even be defined twice. -/
theorem insertion_shifts (hwell : ∀ t ∈ tc.stmts, t.WellFormed) (hown : tc.SelfContained)
    (howner : s.owner = tc.id) (hnew : ∀ r ∈ s.result, r ∉ tc.definedVars) {q : Nat}
    (hq : q ≤ tc.size) :
    ∃ tc', tc.insert q s = .ok tc' ∧ tc'.remove q = .ok (s, tc) ∧
      ∀ v ∈ tc.definedVars,
        (∀ r n, tc.Reaches n v r → tc.borrowed r = none → ∀ c ∈ s.asCall, ¬ c.takesByValue r) →
        (∀ p < q, tc'.isBorrowableAt v p = tc.isBorrowableAt v p) ∧
        ∀ p ≥ q, tc'.isBorrowableAt v (p + 1) = tc.isBorrowableAt v p := by
  obtain ⟨tc', before, after, hinsert, hremove, rfl, h⟩ := exists_insert howner hq
  have hlayered : tc.Layered := layered_of_wellFormed hwell
  exact ⟨tc', hinsert, hremove, fun v hv => h.isBorrowableAt_shifted hlayered hown hnew hv⟩

/-- In a test case that operations lead to, all statements are well-formed. -/
theorem Composed.exists_shifted (hc : Composed tc) (hown : tc.SelfContained)
    (howner : s.owner = tc.id) (hnew : ∀ r ∈ s.result, r ∉ tc.definedVars) {q : Nat}
    (hq : q ≤ tc.size) :
    ∃ tc', tc.insert q s = .ok tc' ∧ tc'.remove q = .ok (s, tc) ∧
      ∀ v ∈ tc.definedVars,
        (∀ r n, tc.Reaches n v r → tc.borrowed r = none → ∀ c ∈ s.asCall, ¬ c.takesByValue r) →
        (∀ p < q, tc'.isBorrowableAt v p = tc.isBorrowableAt v p) ∧
        ∀ p ≥ q, tc'.isBorrowableAt v (p + 1) = tc.isBorrowableAt v p := by
  obtain ⟨tc', before, after, hinsert, hremove, rfl, h⟩ := exists_insert howner hq
  exact ⟨tc', hinsert, hremove, fun v hv => h.isBorrowableAt_shifted hc.layered hown hnew hv⟩

def stray : Var := ⟨7, tokenTy⟩

def renewed : Var := ⟨8, tokenTy⟩

def renew : Callable :=
  ⟨"renew", .function, none, [⟨none, tokenTy⟩], some tokenTy, [], .pub, none, none⟩

def renewal : Statement := ⟨9, 1, .call ⟨renew, [stray]⟩ (some renewed)⟩

theorem peeked_shifted_by_renewal :
    (∀ t ∈ peeked.stmts, t.WellFormed) ∧ peeked.SelfContained ∧ renewal.owner = peeked.id ∧
      (∀ r ∈ renewal.result, r ∉ peeked.definedVars) ∧ 1 ≤ peeked.size ∧
      ∃ tc', peeked.insert 1 renewal = .ok tc' ∧ tc'.remove 1 = .ok (renewal, peeked) ∧
        (∀ p < 1, tc'.isBorrowableAt tokenRefRef p = peeked.isBorrowableAt tokenRefRef p) ∧
        ∀ p ≥ 1, tc'.isBorrowableAt tokenRefRef (p + 1) = peeked.isBorrowableAt tokenRefRef p := by
  have hwell : ∀ t ∈ peeked.stmts, t.WellFormed := by
    simp [peeked, Statement.WellFormed, Call.Saturated, mint, peek, tokenRef, tokenRefRef, token]
  have hown : peeked.SelfContained := built_peeked.selfContained
  have hroot : peeked.root tokenRefRef = token := by decide
  obtain ⟨tc', hinsert, hremove, hlive⟩ :=
    insertion_shifts hwell hown (s := renewal) rfl (by decide) (q := 1) (by decide)
  refine ⟨hwell, hown, rfl, by decide, by decide, tc', hinsert, hremove,
    hlive tokenRefRef (by decide) fun r n hreach hend c hc => ?_⟩
  rw [← (layered_of_wellFormed hwell).root_eq_of_reaches hreach hend, hroot]
  obtain rfl := Option.some.inj hc
  decide

end UnitTestGen.TestCase
