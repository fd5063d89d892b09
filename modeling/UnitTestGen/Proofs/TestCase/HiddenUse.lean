import UnitTestGen.Proofs.TestCase.Built

/-! What the check for moving a variable sees of the statements that follow. A reference statement
is seen to use what it is taken of, and a call to use its arguments and, if the variable is not a
reference itself, what they were taken of; a use behind more references is out of sight. The check
is exact for the uses in sight, so it lets a variable be moved under a later use precisely where one
is out of sight, and never does while no reference is taken of a reference. -/

namespace UnitTestGen.TestCase

inductive Reaches (tc : TestCase) : Nat → Var → Var → Prop
  | here (v : Var) : Reaches tc 0 v v
  | through {n : Nat} {y z x : Var} (hz : tc.borrowed y = some z) (h : Reaches tc n z x) :
      Reaches tc (n + 1) y x

/-- How many references deep a use of the variable in the statement is seen. -/
def sight (s : Statement) (x : Var) : Nat :=
  if s.asCall.isSome && !x.ty.isRef then 1 else 0

def Unreached (tc : TestCase) (x : Var) (pos : Nat) : Prop :=
  ∀ s ∈ tc.stmts.drop pos, ∀ y ∈ s.args, ∀ n, ¬ tc.Reaches n y x

/-- Something from the position on uses a reference into the variable, too deep to be seen. -/
def HiddenUse (tc : TestCase) (x : Var) (pos : Nat) : Prop :=
  ∃ s ∈ tc.stmts.drop pos, ∃ y ∈ s.args, ∃ n, sight s x < n ∧ tc.Reaches n y x

def FlatBorrows (tc : TestCase) : Prop :=
  ∀ s ∈ tc.stmts, ∀ target ∈ s.borrowTarget, ¬ target.ty.isRef

theorem reaches_zero {tc : TestCase} {y x : Var} : tc.Reaches 0 y x ↔ y = x := by
  constructor
  · rintro ⟨_⟩
    rfl
  · rintro rfl
    exact .here y

theorem reaches_one {tc : TestCase} {y x : Var} : tc.Reaches 1 y x ↔ tc.borrowed y = some x := by
  constructor
  · rintro (_ | ⟨hz, h⟩)
    rw [hz, reaches_zero.1 h]
  · intro h
    exact .through h (.here x)

theorem uses_iff {s : Statement} {x : Var} : s.uses x ↔ x ∈ s.args := by
  simp [Statement.uses]

theorem borrowed_mem {tc : TestCase} {y z : Var} (h : tc.borrowed y = some z) :
    ∃ s ∈ tc.stmts, s.borrowTarget = some z := by
  obtain ⟨s, hs, hb⟩ := Option.bind_eq_some_iff.1 h
  exact ⟨s, List.mem_of_find?_eq_some hs, hb⟩

theorem callBorrows_iff {tc : TestCase} (hb : Built tc) {c : Call} {x : Var} :
    tc.callBorrows c x ↔
      if x.ty.isRef then x ∈ c.args else ∃ y ∈ c.args, tc.borrowed y = some x := by
  unfold callBorrows
  split
  · simp [Call.uses]
  · rw [List.any_eq_true]
    constructor
    · rintro ⟨y, hy, h⟩
      exact ⟨y, hy, by simpa using (Bool.and_eq_true_iff.1 h).2⟩
    · rintro ⟨y, hy, h⟩
      -- the check asks for the type of the argument too, which a reference statement gives
      have hr : y.ty.isRef := hb.isRef_of_borrowed h
      exact ⟨y, hy, by simp [h, hr]⟩

theorem uses_or_borrows_iff {tc : TestCase} (hb : Built tc) (s : Statement) (x : Var) :
    (s.uses x || tc.borrows s x) ↔ ∃ y ∈ s.args, ∃ n ≤ sight s x, tc.Reaches n y x := by
  have hzero : (∃ y ∈ s.args, ∃ n ≤ 0, tc.Reaches n y x) ↔ s.uses x := by
    simp [uses_iff, reaches_zero]
  obtain ⟨sid, owner, action⟩ := s
  rw [Bool.or_eq_true]
  cases action with
  | literal value v => simp [Statement.uses, Statement.args, borrows]
  | borrow target mutable v =>
    rw [show sight ⟨sid, owner, .borrow target mutable v⟩ x = 0 from rfl, hzero]
    simp [Statement.uses, Statement.args, borrows]
  | call c v =>
    by_cases hx : x.ty.isRef
    · rw [show sight ⟨sid, owner, .call c v⟩ x = 0 by simp [sight, hx], hzero]
      simp [borrows, callBorrows_iff hb, hx, uses_iff, Statement.args]
    · have hs : sight ⟨sid, owner, .call c v⟩ x = 1 := by simp [sight, Statement.asCall, hx]
      have hn : ∀ y, (∃ n ≤ 1, tc.Reaches n y x) ↔ y = x ∨ tc.borrowed y = some x := by
        intro y
        simp [Nat.le_one_iff_eq_zero_or_eq_one, or_and_right, exists_or, reaches_zero, reaches_one]
      simp only [hs, hn, borrows, callBorrows_iff hb, hx, Bool.false_eq_true, if_false, uses_iff,
        Statement.args, and_or_left, exists_or, exists_eq_right]

theorem isConsumableAt_iff {tc : TestCase} (hb : Built tc) (x : Var) (pos : Nat) :
    tc.isConsumableAt x pos ↔ tc.isBorrowableAt x pos ∧
      ∀ s ∈ tc.stmts.drop pos, ∀ y ∈ s.args, ∀ n, tc.Reaches n y x → sight s x < n := by
  unfold isConsumableAt
  rw [Bool.and_eq_true, Bool.not_eq_true', ← Bool.not_eq_true, List.any_eq_true]
  refine and_congr_right fun _ => ?_
  simp only [uses_or_borrows_iff hb, not_exists, not_and]
  constructor
  · intro h s hs y hy n hn
    exact Nat.lt_of_not_le fun hle => h s hs y hy n hle hn
  · intro h s hs y hy n hle hn
    exact Nat.not_lt_of_le hle (h s hs y hy n hn)

theorem unreached_iff_not_hiddenUse {tc : TestCase} (hb : Built tc) {x : Var} {pos : Nat}
    (hc : tc.isConsumableAt x pos) : tc.Unreached x pos ↔ ¬ tc.HiddenUse x pos := by
  obtain ⟨_, hsight⟩ := (isConsumableAt_iff hb x pos).1 hc
  constructor
  · rintro h ⟨s, hs, y, hy, n, _, hn⟩
    exact h s hs y hy n hn
  · intro h s hs y hy n hn
    exact h ⟨s, hs, y, hy, n, hsight s hs y hy n hn, hn⟩

theorem not_isRef_of_flat {tc : TestCase} (hf : tc.FlatBorrows) {y z : Var}
    (h : tc.borrowed y = some z) : ¬ z.ty.isRef := by
  obtain ⟨s, hs, hz⟩ := borrowed_mem h
  exact hf s hs z hz

theorem not_hiddenUse_of_flat {tc : TestCase} (hb : Built tc) (hf : tc.FlatBorrows) (x : Var)
    (pos : Nat) : ¬ tc.HiddenUse x pos := by
  rintro ⟨s, hs, y, hy, n, hn, hr⟩
  -- a use behind one reference can only be one of a call that passes it, which is in sight
  rcases hr with _ | ⟨hz, _ | ⟨hw, _⟩⟩
  · exact Nat.not_lt_zero _ hn
  · have hx : ¬ x.ty.isRef := not_isRef_of_flat hf hz
    have hyr : y.ty.isRef := hb.isRef_of_borrowed hz
    obtain ⟨sid, owner, action⟩ := s
    cases action with
    | literal value v => cases hy
    | borrow target mutable v =>
      obtain rfl : y = target := by simpa [Statement.args] using hy
      exact hf _ (List.mem_of_mem_drop hs) y rfl hyr
    | call c v => simp [sight, Statement.asCall, hx] at hn
  · exact not_isRef_of_flat hf hz (hb.isRef_of_borrowed hw)

/-- A variable can be moved exactly if it can be borrowed and every later use of it or of a
reference into it is out of sight. So moving it leaves no later use behind exactly if there is none
out of sight, and always if no reference is taken of a reference. -/
theorem consumable_exact {tc : TestCase} (hb : Built tc) (x : Var) (pos : Nat) :
    (tc.isConsumableAt x pos ↔ tc.isBorrowableAt x pos ∧
      ∀ s ∈ tc.stmts.drop pos, ∀ y ∈ s.args, ∀ n, tc.Reaches n y x → sight s x < n) ∧
    ((tc.isConsumableAt x pos → tc.Unreached x pos) ↔
      ¬ (tc.isConsumableAt x pos ∧ tc.HiddenUse x pos)) ∧
    (tc.FlatBorrows → tc.isConsumableAt x pos → tc.Unreached x pos) := by
  refine ⟨isConsumableAt_iff hb x pos, ?_, ?_⟩
  · rw [not_and]
    exact forall_congr' fun hc => unreached_iff_not_hiddenUse hb hc
  · intro hf hc
    exact (unreached_iff_not_hiddenUse hb hc).2 (not_hiddenUse_of_flat hb hf x pos)

def tokenTy : Ty := .struct "Token" []

def mint : Callable :=
  ⟨"mint", .function, none, [], some tokenTy, [], .pub, none, none⟩

def peek : Callable :=
  ⟨"peek", .function, none, [⟨none, .ref (.ref tokenTy false) false⟩], none, [], .pub, none, none⟩

def token : Var := ⟨0, tokenTy⟩

def minted : TestCase := { (new 1).push 0 (.call ⟨mint, []⟩ (some token)) with nextVar := 1 }

theorem built_minted : Built minted :=
  .call 0 mint [] (.new 1) (by decide)
    (show (new 1).pushCall 0 mint [] = .ok (some token, minted) from rfl)

def tokenRef : Var := ⟨1, .ref tokenTy false⟩

def tokenRefRef : Var := ⟨2, .ref (.ref tokenTy false) false⟩

def peeked : TestCase where
  id := 1
  stmts := [⟨0, 1, .call ⟨mint, []⟩ (some token)⟩, ⟨1, 1, .borrow token false tokenRef⟩,
    ⟨2, 1, .borrow tokenRef false tokenRefRef⟩, ⟨3, 1, .call ⟨peek, [tokenRefRef]⟩ none⟩]
  nextVar := 3
  fails := false
  coverage := ∅

theorem built_peeked : Built peeked := by
  have referred := built_minted.borrow 1 token false (by decide)
  have stacked := referred.borrow 2 tokenRef false (by decide)
  exact stacked.call 3 peek [tokenRefRef] (by decide)
    (show TestCase.pushCall _ 3 peek [tokenRefRef] = .ok (none, peeked) from rfl)

theorem reaches_token : peeked.Reaches 2 tokenRefRef token :=
  .through (z := tokenRef) (by decide) (.through (z := token) (by decide) (.here token))

theorem hiddenUse_peeked : peeked.HiddenUse token 3 :=
  ⟨_, List.mem_singleton_self _, tokenRefRef, List.mem_singleton_self _, 2, by decide,
    reaches_token⟩

theorem moved_under_hidden_use :
    Built peeked ∧ peeked.isConsumableAt token 3 ∧ ¬ peeked.Unreached token 3 := by
  have hc : peeked.isConsumableAt token 3 := by decide
  refine ⟨built_peeked, hc, fun hu => ?_⟩
  exact (consumable_exact built_peeked token 3).2.1.1 (fun _ => hu) ⟨hc, hiddenUse_peeked⟩

theorem not_forall_consumable_unreached :
    ¬ ∀ tc, Built tc → ∀ x ∈ tc.definedVars, ∀ pos, tc.isConsumableAt x pos →
      tc.Unreached x pos := by
  intro h
  have hu := h peeked built_peeked token (by decide) 3 (by decide)
  exact hu _ (List.mem_singleton_self _) tokenRefRef (List.mem_singleton_self _) 2 reaches_token

end UnitTestGen.TestCase
