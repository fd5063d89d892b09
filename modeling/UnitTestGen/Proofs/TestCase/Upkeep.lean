import UnitTestGen.Proofs.Outcomes
import UnitTestGen.Proofs.TestCase.Built

/-! What every operation on a test case keeps up. Statements belong to the test case they are in,
calls have one argument for each parameter, and a reference has the type of references to what it
was taken of. A statement may be changed where it stands and may come from another test case; it
brings the last two with it, and the first is asked of it where it is inserted. -/

namespace UnitTestGen

inductive Revision where
  | setValue (value : Literal)
  | setArgs (args : List Var)
  | setArg (pos : Nat) (arg : Var)
  | replace (old new : Var)

def Revision.apply : Revision → Statement → Except Misuse Statement
  | setValue value, s => (s.setValue value).elim (.error .notPart) .ok
  | setArgs args, s => s.editCall (·.setArgs args)
  | setArg pos arg, s => s.editCall (·.setArg pos arg)
  | replace old new, s => s.editCall (·.replace old new)

def Call.Saturated (c : Call) : Prop := c.args.length = c.callable.params.length

def Statement.WellFormed (s : Statement) : Prop :=
  match s.action with
  | .literal _ _ => True
  | .borrow target mutable v => v.ty = .ref target.ty mutable
  | .call c _ => c.Saturated

namespace TestCase

/-- The test cases that operations lead to. A statement that is inserted comes from any of them, and
a clone is the same test case. -/
inductive Composed : TestCase → Prop
  | new (id : UInt64) : Composed (new id)
  | pushLiteral {tc : TestCase} (h : Composed tc) (sid : StmtId) (value : Literal) :
      Composed (tc.pushLiteral sid value).2
  | pushBorrow {tc : TestCase} (h : Composed tc) (sid : StmtId) (target : Var) (mutable : Bool) :
      Composed (tc.pushBorrow sid target mutable).2
  | pushCall {tc : TestCase} (h : Composed tc) (sid : StmtId) (callable : Callable)
      (args : List Var) {out : Option Var × TestCase}
      (hok : tc.pushCall sid callable args = .ok out) : Composed out.2
  | insert {tc other tc' : TestCase} (h : Composed tc) (hother : Composed other) {s : Statement}
      (hs : s ∈ other.stmts) (pos : Nat) (hok : tc.insert pos s = .ok tc') : Composed tc'
  | remove {tc : TestCase} (h : Composed tc) (pos : Nat) {out : Statement × TestCase}
      (hok : tc.remove pos = .ok out) : Composed out.2
  | setId {tc : TestCase} (h : Composed tc) (id : UInt64) : Composed (tc.setId id)
  | edit {tc tc' : TestCase} (h : Composed tc) (pos : Nat) (revision : Revision)
      (hok : tc.edit pos revision.apply = .ok tc') : Composed tc'

def Consistent (tc : TestCase) : Prop := ∀ s ∈ tc.stmts, s.owner = tc.id ∧ s.WellFormed

end TestCase

namespace Call

theorem saturated_make {callable : Callable} {args : List Var} {c : Call}
    (h : make callable args = .ok c) : c.Saturated := by
  unfold make at h
  split at h
  · cases h
    assumption
  · cases h

theorem Saturated.setArg {c d : Call} (hc : c.Saturated) {pos : Nat} {arg : Var}
    (h : c.setArg pos arg = .ok d) : d.Saturated := by
  unfold Call.setArg at h
  split at h
  · cases h
    exact List.length_set.trans hc
  · cases h

theorem Saturated.replace {c d : Call} (hc : c.Saturated) {old new : Var}
    (h : c.replace old new = .ok d) : d.Saturated := by
  unfold Call.replace at h
  split at h
  · cases h
    exact (List.length_map _).trans hc
  · cases h

end Call

namespace Statement

theorem WellFormed.editCall {s s' : Statement} (hs : s.WellFormed)
    {f : Call → Except Misuse Call} (hf : ∀ c d, c.Saturated → f c = .ok d → d.Saturated)
    (h : s.editCall f = .ok s') : s'.owner = s.owner ∧ s'.WellFormed := by
  obtain ⟨sid, owner, action⟩ := s
  cases action with
  | literal value v => cases h
  | borrow target mutable v => cases h
  | call c v =>
    obtain ⟨d, hd, rfl⟩ := exists_of_map_eq_ok h
    exact ⟨rfl, hf c d hs hd⟩

theorem WellFormed.revise {s s' : Statement} (hs : s.WellFormed) {revision : Revision}
    (h : revision.apply s = .ok s') : s'.owner = s.owner ∧ s'.WellFormed := by
  cases revision with
  | setValue value =>
    obtain ⟨sid, owner, action⟩ := s
    cases action with
    | literal old v =>
      cases h
      exact ⟨rfl, trivial⟩
    | borrow target mutable v => cases h
    | call c v => cases h
  | setArgs args => exact hs.editCall (fun _ _ _ hd => Call.saturated_make hd) h
  | setArg pos arg => exact hs.editCall (fun _ _ hc hd => hc.setArg hd) h
  | replace old new => exact hs.editCall (fun _ _ hc hd => hc.replace hd) h

end Statement

namespace TestCase

variable {tc tc' : TestCase}

theorem Consistent.push (h : tc.Consistent) {s : Statement} (hid : tc'.id = tc.id)
    (hstmts : tc'.stmts = tc.stmts ++ [s]) (howner : s.owner = tc.id) (hs : s.WellFormed) :
    tc'.Consistent := by
  intro t ht
  rw [hid]
  rw [hstmts, List.mem_append, List.mem_singleton] at ht
  rcases ht with ht | rfl
  · exact h t ht
  · exact ⟨howner, hs⟩

theorem Consistent.insert (h : tc.Consistent) {s : Statement} (hs : s.WellFormed) {pos : Nat}
    (hok : tc.insert pos s = .ok tc') : tc'.Consistent := by
  unfold TestCase.insert at hok
  split at hok
  · cases hok
  · rename_i howner
    split at hok
    · cases hok
    · rename_i hpos
      cases hok
      intro t ht
      rcases (List.mem_insertIdx (Nat.not_lt.1 hpos)).1 ht with rfl | ht
      · exact ⟨Decidable.not_not.1 howner, hs⟩
      · exact h t ht

theorem Consistent.remove (h : tc.Consistent) {pos : Nat} {out : Statement × TestCase}
    (hok : tc.remove pos = .ok out) : out.2.Consistent := by
  unfold TestCase.remove at hok
  split at hok
  · cases hok
    intro t ht
    exact h t (List.mem_of_mem_eraseIdx ht)
  · cases hok

theorem Consistent.setId (h : tc.Consistent) (id : UInt64) : (tc.setId id).Consistent := by
  intro t ht
  obtain ⟨s, hs, rfl⟩ := List.mem_map.1 ht
  exact ⟨rfl, (h s hs).2⟩

theorem Consistent.edit (h : tc.Consistent) {pos : Nat} {revision : Revision}
    (hok : tc.edit pos revision.apply = .ok tc') : tc'.Consistent := by
  unfold TestCase.edit at hok
  split at hok
  · rename_i s hs
    obtain ⟨howner, hwell⟩ := h s (List.mem_of_getElem? hs)
    obtain ⟨s', hs', rfl⟩ := exists_of_map_eq_ok hok
    obtain ⟨howner', hwell'⟩ := hwell.revise hs'
    intro t ht
    rcases List.mem_or_eq_of_mem_set ht with ht | rfl
    · exact h t ht
    · exact ⟨howner'.trans howner, hwell'⟩
  · cases hok

theorem id_pushCall {sid : StmtId} {callable : Callable} {args : List Var}
    {out : Option Var × TestCase} (h : tc.pushCall sid callable args = .ok out) :
    out.2.id = tc.id := by
  unfold TestCase.pushCall at h
  obtain ⟨c, -, h⟩ := exists_of_bind_eq_ok h
  split at h
  · split at h
    all_goals
      cases h
      rfl
  · cases h
    rfl

theorem Composed.consistent (h : Composed tc) : tc.Consistent := by
  induction h with
  | new id =>
    intro s hs
    cases hs
  | pushLiteral h sid value ih => exact ih.push rfl (stmts_pushLiteral _ sid value) rfl trivial
  | pushBorrow h sid target mutable ih =>
    exact ih.push rfl (stmts_pushBorrow _ sid target mutable) rfl rfl
  | pushCall h sid callable args hok ih =>
    obtain ⟨hlen, hstmts, _⟩ := stmts_pushCall hok
    exact ih.push (id_pushCall hok) hstmts rfl hlen
  | insert h hother hs pos hok ih ihother => exact ih.insert (ihother _ hs).2 hok
  | remove h pos hok ih => exact ih.remove hok
  | setId h id ih => exact ih.setId id
  | edit h pos revision hok ih => exact ih.edit hok

/-- Whatever operations led to a test case, every statement of it belongs to it, every call has as
many arguments as its callable has parameters, and every reference statement defines a variable of
the type of references, mutable or not as the statement says, to the type of what it refers to. -/
theorem upkeep_exact (h : Composed tc) :
    ∀ s ∈ tc.stmts, s.owner = tc.id ∧
      (∀ c v, s.action = .call c v → c.args.length = c.callable.params.length) ∧
      (∀ target mutable v, s.action = .borrow target mutable v →
        v.ty = .ref target.ty mutable) := by
  intro s hs
  obtain ⟨howner, hwell⟩ := h.consistent s hs
  refine ⟨howner, fun c v ha => ?_, fun target mutable v ha => ?_⟩
  · unfold Statement.WellFormed at hwell
    rw [ha] at hwell
    exact hwell
  · unfold Statement.WellFormed at hwell
    rw [ha] at hwell
    exact hwell

def flag : Var := ⟨0, .prim .bool⟩

def flagRef : Var := ⟨1, .ref (.prim .bool) true⟩

def toggle : Callable :=
  ⟨"toggle", .function, none, [⟨none, .ref (.prim .bool) true⟩, ⟨none, .prim .bool⟩], none, [],
    .pub, none, none⟩

def toggled : TestCase where
  id := 1
  stmts := [⟨0, 1, .literal (.bool true) flag⟩, ⟨1, 1, .borrow flag true flagRef⟩,
    ⟨2, 1, .call ⟨toggle, [flagRef, flag]⟩ none⟩]
  nextVar := 2
  fails := false
  coverage := ∅

def borrowedParts : TestCase where
  id := 7
  stmts := [⟨1, 7, .borrow flag true flagRef⟩, ⟨2, 7, .call ⟨toggle, [flagRef, flagRef]⟩ none⟩]
  nextVar := 0
  fails := false
  coverage := ∅

theorem composed_toggled : Composed toggled :=
  .pushCall (.pushBorrow (.pushLiteral (.new 1) 0 (.bool true)) 1 flag true) 2 toggle
    [flagRef, flag] (show TestCase.pushCall _ 2 toggle [flagRef, flag] = .ok (none, toggled) from rfl)

theorem composed_borrowedParts : Composed borrowedParts := by
  have named : Composed ((new 2).setId 1) := .setId (.new 2) 1
  have withCall := named.insert composed_toggled (s := ⟨2, 1, .call ⟨toggle, [flagRef, flag]⟩ none⟩)
    (.tail _ (.tail _ (.head _))) 0 rfl
  have changed := withCall.edit 0 (.replace flag flagRef) rfl
  have withBorrow := changed.insert composed_toggled (s := ⟨1, 1, .borrow flag true flagRef⟩)
    (.tail _ (.head _)) 0 rfl
  exact withBorrow.setId 7

theorem call_of_borrowedParts :
    Composed borrowedParts ∧ ∀ s ∈ borrowedParts.stmts, s.owner = 7 ∧
      (∀ c v, s.action = .call c v → c.args.length = c.callable.params.length) ∧
      (∀ target mutable v, s.action = .borrow target mutable v →
        v.ty = .ref target.ty mutable) :=
  ⟨composed_borrowedParts, upkeep_exact composed_borrowedParts⟩

end TestCase
end UnitTestGen
