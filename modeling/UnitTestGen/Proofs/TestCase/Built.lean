import UnitTestGen.TestCase.Liveness

/-! Test cases made by appending statements whose arguments are variables of the test case itself.
Every way of appending adds one statement of its own; what the added statements have in common is
shown here by induction over the way a test case was made. -/

namespace UnitTestGen.TestCase

/-- The test cases made by appending literals, references and calls. -/
inductive Built : TestCase → Prop
  | new (id : UInt64) : Built (new id)
  | literal {tc : TestCase} (sid : StmtId) (value : Literal) (h : Built tc) :
      Built (tc.pushLiteral sid value).2
  | borrow {tc : TestCase} (sid : StmtId) (target : Var) (mutable : Bool) (h : Built tc)
      (ht : target ∈ tc.definedVars) : Built (tc.pushBorrow sid target mutable).2
  | call {tc : TestCase} (sid : StmtId) (callable : Callable) (args : List Var)
      {out : Option Var × TestCase} (h : Built tc) (ha : ∀ a ∈ args, a ∈ tc.definedVars)
      (hout : tc.pushCall sid callable args = .ok out) : Built out.2

theorem stmts_pushLiteral (tc : TestCase) (sid : StmtId) (value : Literal) :
    (tc.pushLiteral sid value).2.stmts =
      tc.stmts ++ [⟨sid, tc.id, .literal value ⟨tc.nextVar, value.ty⟩⟩] := rfl

theorem stmts_pushBorrow (tc : TestCase) (sid : StmtId) (target : Var) (mutable : Bool) :
    (tc.pushBorrow sid target mutable).2.stmts =
      tc.stmts ++ [⟨sid, tc.id, .borrow target mutable ⟨tc.nextVar, .ref target.ty mutable⟩⟩] := rfl

theorem stmts_pushCall {tc : TestCase} {sid : StmtId} {callable : Callable} {args : List Var}
    {out : Option Var × TestCase} (h : tc.pushCall sid callable args = .ok out) :
    args.length = callable.params.length ∧
      out.2.stmts = tc.stmts ++ [⟨sid, tc.id, .call ⟨callable, args⟩ out.1⟩] ∧
      ∀ v ∈ out.1, v.id = tc.nextVar := by
  unfold pushCall Call.make at h
  -- the call is made only with one argument for each parameter, and then nothing can fail
  split at h
  · rename_i hlen
    refine ⟨hlen, ?_⟩
    simp only [bind, Except.bind] at h
    split at h
    · split at h
      all_goals
        cases h
        exact ⟨rfl, by simp [freshVar]⟩
    · cases h
      exact ⟨rfl, by simp⟩
  · cases h

namespace Built

theorem borrow_ty {tc : TestCase} (h : Built tc) {s : Statement} (hs : s ∈ tc.stmts)
    {target v : Var} {mutable : Bool} (ha : s.action = .borrow target mutable v) :
    v.ty = .ref target.ty mutable := by
  induction h with
  | new id => cases hs
  | literal sid value h ih =>
    rw [stmts_pushLiteral, List.mem_append, List.mem_singleton] at hs
    rcases hs with hs | rfl
    · exact ih hs
    · cases ha
  | borrow sid target mutable h ht ih =>
    rw [stmts_pushBorrow, List.mem_append, List.mem_singleton] at hs
    rcases hs with hs | rfl
    · exact ih hs
    · cases ha
      rfl
  | call sid callable args h hargs hout ih =>
    rw [(stmts_pushCall hout).2.1, List.mem_append, List.mem_singleton] at hs
    rcases hs with hs | rfl
    · exact ih hs
    · cases ha

theorem isRef_of_borrowed {tc : TestCase} (h : Built tc) {v target : Var}
    (hv : tc.borrowed v = some target) : v.ty.isRef := by
  obtain ⟨s, hs, hb⟩ := Option.bind_eq_some_iff.1 hv
  have hmem : s ∈ tc.stmts := List.mem_of_find?_eq_some hs
  have hres : s.result = some v := by simpa using List.find?_some hs
  obtain ⟨sid, owner, action⟩ := s
  cases action with
  | borrow t m w =>
    have hty : w.ty = .ref t.ty m := h.borrow_ty hmem rfl
    cases hres
    rw [hty]
    rfl
  | literal value w => cases hb
  | call c w => cases hb

end Built
end UnitTestGen.TestCase
