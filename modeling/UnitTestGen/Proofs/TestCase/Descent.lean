import UnitTestGen.Proofs.TestCase.HiddenUse
import UnitTestGen.Proofs.TestCase.Upkeep

/-! The way from a variable to the one that decides whether it is moved. Statements can be put in
any order, taken out, repeated and brought in from elsewhere, so neither places nor ids bound that
way. The types do: wherever a reference statement ends up, the type of what it defines is a
reference to the type of its target, and so every step takes one reference off the type. -/

namespace UnitTestGen.TestCase

variable {tc : TestCase}

/-- What a reference statement defines has a type one reference deeper than that of its target. -/
def Layered (tc : TestCase) : Prop :=
  ∀ r target, tc.borrowed r = some target → r.ty.refDepth = target.ty.refDepth + 1

/-- How it is decided whether a variable is moved at or before the position: what a reference was
taken of decides for it, and for any other variable its type and the calls do. The list holds the
variables that are looked at, in order. -/
inductive Decides (tc : TestCase) (pos : Nat) : Var → List Var → Bool → Prop
  | target {v target : Var} {visited : List Var} {moved : Bool}
      (hv : tc.borrowed v = some target) (h : Decides tc pos target visited moved) :
      Decides tc pos v (v :: visited) moved
  | value {v : Var} (hv : tc.borrowed v = none) :
      Decides tc pos v [v] (!v.ty.isCopy && (tc.stmts.take (pos + 1)).any (tc.consumes · v))

theorem layered_of_wellFormed (h : ∀ s ∈ tc.stmts, s.WellFormed) : tc.Layered := by
  intro r target hr
  obtain ⟨s, hs, hb⟩ := Option.bind_eq_some_iff.1 hr
  have hwell : s.WellFormed := h s (List.mem_of_find?_eq_some hs)
  have hres : s.result = some r := by simpa using List.find?_some hs
  obtain ⟨sid, owner, action⟩ := s
  cases action with
  | borrow t m w =>
    cases hb
    cases hres
    have hty : r.ty = .ref target.ty m := hwell
    rw [hty]
    rfl
  | literal value w => cases hb
  | call c w => cases hb

theorem Composed.layered (h : Composed tc) : tc.Layered :=
  layered_of_wellFormed fun s hs => (h.consistent s hs).2

theorem root_of_not_borrowed {v : Var} (hv : tc.borrowed v = none) : tc.root v = v := by
  unfold root
  cases v.ty.refDepth with
  | zero => rfl
  | succ n => rw [followBorrows, hv]

theorem Layered.root_eq (h : tc.Layered) {r target : Var} (hr : tc.borrowed r = some target) :
    tc.root r = tc.root target := by
  unfold root
  rw [h r target hr, followBorrows, hr]

@[elab_as_elim]
theorem Layered.induction (h : tc.Layered) {P : Var → Prop}
    (value : ∀ v, tc.borrowed v = none → P v)
    (target : ∀ r target, tc.borrowed r = some target → P target → P r) (v : Var) : P v := by
  induction hdepth : v.ty.refDepth generalizing v with
  | zero =>
    cases hv : tc.borrowed v with
    | none => exact value v hv
    | some t => exact absurd (hdepth.symm.trans (h v t hv)) (Nat.succ_ne_zero _).symm
  | succ n ih =>
    cases hv : tc.borrowed v with
    | none => exact value v hv
    | some t => exact target v t hv (ih t (Nat.succ.inj ((h v t hv).symm.trans hdepth)))

theorem Layered.borrowed_root (h : tc.Layered) (v : Var) : tc.borrowed (tc.root v) = none := by
  induction v using h.induction with
  | value v hv => rwa [root_of_not_borrowed hv]
  | target r target hr ih => rwa [h.root_eq hr]

theorem Layered.reaches_root (h : tc.Layered) (v : Var) : ∃ n, tc.Reaches n v (tc.root v) := by
  induction v using h.induction with
  | value v hv =>
    rw [root_of_not_borrowed hv]
    exact ⟨0, .here v⟩
  | target r target hr ih =>
    obtain ⟨n, hn⟩ := ih
    rw [h.root_eq hr]
    exact ⟨n + 1, .through hr hn⟩

theorem Layered.root_eq_of_reaches (h : tc.Layered) {n : Nat} {v r : Var} (hr : tc.Reaches n v r)
    (hend : tc.borrowed r = none) : tc.root v = r := by
  induction hr with
  | here v => exact root_of_not_borrowed hend
  | through hz _ ih => exact (h.root_eq hz).trans (ih hend)

theorem Decides.unique {pos : Nat} {v : Var} {visited visited' : List Var} {moved moved' : Bool}
    (h : tc.Decides pos v visited moved) (h' : tc.Decides pos v visited' moved') :
    visited' = visited ∧ moved' = moved := by
  induction h generalizing visited' with
  | target hv _ ih =>
    cases h' with
    | target hv' h' =>
      obtain rfl := Option.some.inj (hv.symm.trans hv')
      obtain ⟨rfl, rfl⟩ := ih h'
      exact ⟨rfl, rfl⟩
    | value hv' => nomatch hv.symm.trans hv'
  | value hv =>
    cases h' with
    | target hv' _ => nomatch hv.symm.trans hv'
    | value _ => exact ⟨rfl, rfl⟩

theorem Layered.exists_decides (h : tc.Layered) (pos : Nat) (v : Var) :
    ∃ visited, tc.Decides pos v visited (tc.isMovedBy v pos) ∧
      visited.length ≤ v.ty.refDepth + 1 := by
  induction v using h.induction with
  | value v hv =>
    refine ⟨[v], ?_, Nat.succ_le_succ (Nat.zero_le _)⟩
    unfold isMovedBy
    rw [root_of_not_borrowed hv]
    exact .value hv
  | target r target hr ih =>
    obtain ⟨visited, hdecides, hlen⟩ := ih
    have hmoved : tc.isMovedBy r pos = tc.isMovedBy target pos := by
      unfold isMovedBy
      rw [h.root_eq hr]
    refine ⟨r :: visited, ?_, ?_⟩
    · rw [hmoved]
      exact .target hr hdecides
    · rw [h r target hr]
      exact Nat.succ_le_succ hlen

/-- Whatever operations led to a test case, whether a variable is moved is decided in one way, which
ends and visits at most one variable more than the type of the first has references around it; the
answer is the one that all questions about liveness rest on. -/
theorem decided_within_depth (h : Composed tc) (v : Var) (pos : Nat) :
    ∃ visited, tc.Decides pos v visited (tc.isMovedBy v pos) ∧
      visited.length ≤ v.ty.refDepth + 1 ∧
      ∀ visited' moved, tc.Decides pos v visited' moved →
        visited' = visited ∧ moved = tc.isMovedBy v pos := by
  obtain ⟨visited, hdecides, hlen⟩ := h.layered.exists_decides pos v
  exact ⟨visited, hdecides, hlen, fun _ _ h' => hdecides.unique h'⟩

def doubled : TestCase :=
  { borrowedParts with stmts := ⟨1, 7, .borrow flag true flagRef⟩ :: borrowedParts.stmts }

theorem composed_doubled : Composed doubled :=
  composed_borrowedParts.insert composed_borrowedParts (s := ⟨1, 7, .borrow flag true flagRef⟩)
    (.head _) 0 rfl

theorem doubled_decided :
    Composed doubled ∧ ∃ visited, doubled.Decides 2 flagRef visited (doubled.isMovedBy flagRef 2) ∧
      visited.length ≤ 2 ∧ ∀ visited' moved, doubled.Decides 2 flagRef visited' moved →
        visited' = visited ∧ moved = doubled.isMovedBy flagRef 2 :=
  ⟨composed_doubled, decided_within_depth composed_doubled flagRef 2⟩

end UnitTestGen.TestCase
