import Mathlib.Logic.Relation
import UnitTestGen.Proofs.TestCase.Built

/-! What appending one statement does to a test case, and what therefore holds of every test case
made by appending: a variable is defined in one place only, and what a statement uses is defined
before it. Where a variable is defined and what it was taken of stay as they are when the test case
grows. -/

namespace UnitTestGen.TestCase

inductive Push (tc : TestCase) : TestCase → Prop
  | literal (sid : StmtId) (value : Literal) : Push tc (tc.pushLiteral sid value).2
  | borrow (sid : StmtId) (target : Var) (mutable : Bool) (ht : target ∈ tc.definedVars) :
      Push tc (tc.pushBorrow sid target mutable).2
  | call (sid : StmtId) (callable : Callable) (args : List Var) {out : Option Var × TestCase}
      (ha : ∀ a ∈ args, a ∈ tc.definedVars) (hout : tc.pushCall sid callable args = .ok out) :
      Push tc out.2

def DefinedAt (tc : TestCase) (v : Var) (i : Nat) : Prop :=
  ∃ s, tc.stmts[i]? = some s ∧ s.result = some v

def BorrowedAt (tc : TestCase) (r target : Var) (i : Nat) : Prop :=
  ∃ s mutable, tc.stmts[i]? = some s ∧ s.action = .borrow target mutable r

def BoundByValue (tc : TestCase) (v : Var) (i : Nat) : Prop :=
  ∃ s c, tc.stmts[i]? = some s ∧ s.asCall = some c ∧ ∃ p, (p, v) ∈ c.bindings ∧ ¬ p.ty.isRef

theorem nextVar_pushCall {tc : TestCase} {sid : StmtId} {callable : Callable} {args : List Var}
    {out : Option Var × TestCase} (h : tc.pushCall sid callable args = .ok out) :
    tc.nextVar ≤ out.2.nextVar ∧ ∀ v ∈ out.1, tc.nextVar < out.2.nextVar := by
  unfold pushCall Call.make at h
  split at h
  · simp only [bind, Except.bind] at h
    split at h
    · split at h
      all_goals
        cases h
        simp [freshVar, push]
    · cases h
      simp [push]
  · cases h

theorem mem_definedVars {tc : TestCase} {v : Var} : v ∈ tc.definedVars ↔ ∃ i, tc.DefinedAt v i := by
  unfold definedVars DefinedAt
  rw [List.mem_filterMap]
  constructor
  · rintro ⟨s, hs, hv⟩
    obtain ⟨i, hi⟩ := List.mem_iff_getElem?.1 hs
    exact ⟨i, s, hi, hv⟩
  · rintro ⟨i, s, hi, hv⟩
    exact ⟨s, List.mem_of_getElem? hi, hv⟩

theorem DefinedAt.lt_length {tc : TestCase} {v : Var} {i : Nat} (h : tc.DefinedAt v i) :
    i < tc.stmts.length := by
  obtain ⟨s, hs, _⟩ := h
  exact (List.getElem?_eq_some_iff.1 hs).1

namespace Push

variable {tc tc' : TestCase}

theorem appends (h : Push tc tc') :
    tc.nextVar ≤ tc'.nextVar ∧ ∃ s, tc'.stmts = tc.stmts ++ [s] ∧
      (∀ a ∈ s.args, a ∈ tc.definedVars) ∧
      ∀ v, s.result = some v → v.id = tc.nextVar ∧ tc.nextVar < tc'.nextVar := by
  cases h with
  | literal sid value =>
    refine ⟨Nat.le_succ _, _, stmts_pushLiteral tc sid value, ?_, ?_⟩
    · rintro a ⟨⟩
    · rintro v ⟨⟩
      exact ⟨rfl, Nat.lt_succ_self _⟩
  | borrow sid target mutable ht =>
    refine ⟨Nat.le_succ _, _, stmts_pushBorrow tc sid target mutable, ?_, ?_⟩
    · intro a ha
      obtain rfl : a = target := by simpa [Statement.args] using ha
      exact ht
    · rintro v ⟨⟩
      exact ⟨rfl, Nat.lt_succ_self _⟩
  | call sid callable args ha hout =>
    obtain ⟨_, hstmts, hid⟩ := stmts_pushCall hout
    obtain ⟨hle, hlt⟩ := nextVar_pushCall hout
    exact ⟨hle, _, hstmts, ha, fun v hv => ⟨hid v hv, hlt v hv⟩⟩

theorem definedAt (h : Push tc tc') {v : Var} {i : Nat} (hv : tc.DefinedAt v i) :
    tc'.DefinedAt v i := by
  obtain ⟨_, s, hs, _⟩ := h.appends
  have hlt : i < tc.stmts.length := hv.lt_length
  obtain ⟨t, ht, hres⟩ := hv
  refine ⟨t, ?_, hres⟩
  rw [hs, List.getElem?_append_left hlt]
  exact ht

theorem definedAt_or_new (h : Push tc tc') {v : Var} {i : Nat} (hv : tc'.DefinedAt v i) :
    tc.DefinedAt v i ∨ i = tc.stmts.length ∧ v.id = tc.nextVar ∧ tc.nextVar < tc'.nextVar := by
  obtain ⟨_, s, hs, _, hnew⟩ := h.appends
  obtain ⟨t, ht, hres⟩ := hv
  rw [hs] at ht
  rcases Nat.lt_trichotomy i tc.stmts.length with hlt | rfl | hgt
  · rw [List.getElem?_append_left hlt] at ht
    exact .inl ⟨t, ht, hres⟩
  · rw [List.getElem?_concat_length] at ht
    cases ht
    exact .inr ⟨rfl, hnew v hres⟩
  · have hlen : (tc.stmts ++ [s]).length ≤ i := by
      rw [List.length_append]
      exact hgt
    rw [List.getElem?_eq_none hlen] at ht
    cases ht

end Push

namespace Built

variable {tc tc' : TestCase}

theorem push (hb : Built tc) (h : Push tc tc') : Built tc' := by
  cases h with
  | literal sid value => exact .literal sid value hb
  | borrow sid target mutable ht => exact .borrow sid target mutable hb ht
  | call sid callable args ha hout => exact .call sid callable args hb ha hout

@[elab_as_elim]
theorem pushes {P : ∀ tc, Built tc → Prop} (new : ∀ id, P (.new id) (.new id))
    (push : ∀ {tc tc'} (hb : Built tc) (h : Push tc tc'), P tc hb → P tc' (hb.push h))
    {tc : TestCase} (hb : Built tc) : P tc hb := by
  induction hb with
  | new id => exact new id
  | literal sid value h ih => exact push h (.literal sid value) ih
  | borrow sid target mutable h ht ih => exact push h (.borrow sid target mutable ht) ih
  | call sid callable args h ha hout ih => exact push h (.call sid callable args ha hout) ih

theorem id_lt_nextVar (hb : Built tc) {v : Var} {i : Nat} (hv : tc.DefinedAt v i) :
    v.id < tc.nextVar := by
  induction hb using pushes with
  | new id =>
    obtain ⟨s, hs, _⟩ := hv
    cases hs
  | push hb hpush ih =>
    rename_i tc tc'
    have hle : tc.nextVar ≤ tc'.nextVar := hpush.appends.1
    rcases hpush.definedAt_or_new hv with hold | ⟨_, hid, hlt⟩
    · exact Nat.lt_of_lt_of_le (ih hold) hle
    · rw [hid]
      exact hlt

theorem eq_of_id_eq (hb : Built tc) {v w : Var} {i j : Nat} (hi : tc.DefinedAt v i)
    (hj : tc.DefinedAt w j) (hvw : v.id = w.id) : i = j := by
  induction hb using pushes with
  | new id =>
    obtain ⟨s, hs, _⟩ := hi
    cases hs
  | push hb hpush ih =>
    rename_i tc tc'
    -- a new variable has an id that no earlier one has
    have hold {u : Var} {k : Nat} (hk : tc.DefinedAt u k) : u.id ≠ tc.nextVar :=
      Nat.ne_of_lt (hb.id_lt_nextVar hk)
    rcases hpush.definedAt_or_new hi with hi | ⟨rfl, hid, _⟩ <;>
      rcases hpush.definedAt_or_new hj with hj | ⟨rfl, hid', _⟩
    · exact ih hi hj
    · exact absurd (hvw.trans hid') (hold hi)
    · exact absurd (hvw.symm.trans hid) (hold hj)
    · rfl

theorem definedAt_unique (hb : Built tc) {v : Var} {i j : Nat} (hi : tc.DefinedAt v i)
    (hj : tc.DefinedAt v j) : i = j := hb.eq_of_id_eq hi hj rfl

theorem arg_definedAt (hb : Built tc) {i : Nat} {s : Statement} (hs : tc.stmts[i]? = some s)
    {a : Var} (ha : a ∈ s.args) : ∃ j < i, tc.DefinedAt a j := by
  induction hb using pushes with
  | new id => cases hs
  | push hb hpush ih =>
    rename_i tc tc'
    obtain ⟨_, t, ht, hargs, _⟩ := hpush.appends
    rw [ht] at hs
    rcases Nat.lt_or_ge i tc.stmts.length with hlt | hge
    · rw [List.getElem?_append_left hlt] at hs
      obtain ⟨j, hj, hdef⟩ := ih hs
      exact ⟨j, hj, hpush.definedAt hdef⟩
    · obtain rfl : s = t := by
        rw [List.getElem?_append_right hge] at hs
        exact List.mem_singleton.1 (List.mem_of_getElem? hs)
      obtain ⟨j, hdef⟩ := mem_definedVars.1 (hargs a ha)
      exact ⟨j, Nat.lt_of_lt_of_le hdef.lt_length hge, hpush.definedAt hdef⟩

theorem definitionPosition_eq_some_iff (hb : Built tc) {v : Var} {i : Nat} :
    tc.definitionPosition v = some i ↔ tc.DefinedAt v i := by
  unfold definitionPosition
  rw [List.findIdx?_eq_some_iff_getElem]
  constructor
  · rintro ⟨hi, hres, _⟩
    exact ⟨_, List.getElem?_eq_getElem hi, by simpa using hres⟩
  · rintro ⟨s, hs, hres⟩
    have hdef : tc.DefinedAt v i := ⟨s, hs, hres⟩
    obtain ⟨hi, rfl⟩ := List.getElem?_eq_some_iff.1 hs
    refine ⟨hi, by simpa using hres, fun j hj hres' => ?_⟩
    have hdef' : tc.DefinedAt v j :=
      ⟨_, List.getElem?_eq_getElem (Nat.lt_trans hj hi), by simpa using hres'⟩
    exact absurd (hb.definedAt_unique hdef' hdef) (Nat.ne_of_lt hj)

theorem definedBy_eq_some_iff (hb : Built tc) {v : Var} {s : Statement} :
    tc.definedBy v = some s ↔ ∃ i : Nat, tc.stmts[i]? = some s ∧ s.result = some v := by
  unfold definedBy
  rw [List.find?_eq_some_iff_getElem]
  constructor
  · rintro ⟨hres, i, hi, rfl, _⟩
    exact ⟨i, List.getElem?_eq_getElem hi, by simpa using hres⟩
  · rintro ⟨i, hs, hres⟩
    have hpos : tc.definitionPosition v = some i :=
      hb.definitionPosition_eq_some_iff.2 ⟨s, hs, hres⟩
    obtain ⟨hi, _, hfirst⟩ := List.findIdx?_eq_some_iff_getElem.1 hpos
    refine ⟨by simpa using hres, i, hi, (List.getElem?_eq_some_iff.1 hs).2, fun j hj => ?_⟩
    simpa using hfirst j hj

theorem borrowed_eq_some_iff (hb : Built tc) {r target : Var} :
    tc.borrowed r = some target ↔ ∃ i, tc.BorrowedAt r target i := by
  unfold borrowed
  rw [Option.bind_eq_some_iff]
  constructor
  · rintro ⟨s, hs, ht⟩
    obtain ⟨i, hi, hres⟩ := hb.definedBy_eq_some_iff.1 hs
    obtain ⟨sid, owner, action⟩ := s
    cases action with
    | borrow t m w =>
      cases ht
      cases hres
      exact ⟨i, _, m, hi, rfl⟩
    | literal value w => cases ht
    | call c w => cases ht
  · rintro ⟨i, s, m, hi, ha⟩
    have hres : s.result = some r := by
      unfold Statement.result
      rw [ha]
    have ht : s.borrowTarget = some target := by
      unfold Statement.borrowTarget
      rw [ha]
    exact ⟨s, hb.definedBy_eq_some_iff.2 ⟨i, hi, hres⟩, ht⟩

end Built

theorem BorrowedAt.definedAt {tc : TestCase} {r target : Var} {i : Nat}
    (h : tc.BorrowedAt r target i) : tc.DefinedAt r i := by
  obtain ⟨s, m, hs, ha⟩ := h
  refine ⟨s, hs, ?_⟩
  unfold Statement.result
  rw [ha]

theorem BorrowedAt.target_definedAt {tc : TestCase} (hb : Built tc) {r target : Var} {i : Nat}
    (h : tc.BorrowedAt r target i) : ∃ j < i, tc.DefinedAt target j := by
  obtain ⟨s, m, hs, ha⟩ := h
  refine hb.arg_definedAt hs ?_
  unfold Statement.args
  rw [ha]
  exact List.mem_singleton_self target

theorem BorrowedAt.ty_eq {tc : TestCase} (hb : Built tc) {r target : Var} {i : Nat}
    (h : tc.BorrowedAt r target i) : ∃ mutable, r.ty = .ref target.ty mutable := by
  obtain ⟨s, m, hs, ha⟩ := h
  exact ⟨m, hb.borrow_ty (List.mem_of_getElem? hs) ha⟩

end UnitTestGen.TestCase
