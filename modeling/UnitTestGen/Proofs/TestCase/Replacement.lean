import UnitTestGen.Proofs.TestCase.Upkeep
import UnitTestGen.TestCase.Liveness

/-! One variable put in the place of another in a call. What a call does to a variable is read off
the positions at which the variable is an argument, and which of them count is for the callable to
say: all of them for a use, those of mutable parameters for a mutation, those of parameters taken by
value for a move. A replacement hands the positions of the old variable to the new one. So what the
call did to the old variable it does to the new one afterwards, however often either of them occurs,
and also if the two are the same. -/

namespace UnitTestGen

def Var.substitute (old new a : Var) : Var := if a = old then new else a

theorem Var.substitute_eq_iff {old new a v : Var} :
    Var.substitute old new a = v ↔ a = old ∧ v = new ∨ a ≠ old ∧ a = v := by
  unfold Var.substitute
  split
  · rename_i ha
    simp [ha, eq_comm]
  · rename_i ha
    simp [ha]

namespace Call

variable {old new : Var} {c : Call}

def Occupies (c : Call) (positions : Nat → Prop) (v : Var) : Prop :=
  ∃ i, positions i ∧ c.args[i]? = some v

def ParamAt (c : Call) (kind : Param → Bool) (i : Nat) : Prop :=
  ∃ p, c.callable.params[i]? = some p ∧ kind p

def replaced (old new : Var) (c : Call) : Call :=
  { c with args := c.args.map (Var.substitute old new) }

theorem replace_of_uses (h : c.uses old) : c.replace old new = .ok (c.replaced old new) := if_pos h

theorem replace_of_not_uses (h : ¬ c.uses old) :
    c.replace old new = .error (.notAnArgument old c.callable) := if_neg h

theorem uses_iff_occupies {v : Var} : c.uses v ↔ c.Occupies (fun _ => True) v := by
  simp [uses, Occupies, List.mem_iff_getElem?]

theorem any_bindings_iff_occupies (kind : Param → Bool) {v : Var} :
    (c.bindings.any fun (p, a) => a == v && kind p) ↔ c.Occupies (c.ParamAt kind) v := by
  unfold bindings Occupies ParamAt
  rw [List.any_eq_true]
  constructor
  · rintro ⟨⟨p, a⟩, hmem, h⟩
    obtain ⟨i, hi⟩ := List.mem_iff_getElem?.1 hmem
    obtain ⟨hp, ha⟩ := List.getElem?_zip_eq_some.1 hi
    obtain ⟨hv, hkind⟩ := Bool.and_eq_true_iff.1 h
    obtain rfl : a = v := eq_of_beq hv
    exact ⟨i, ⟨p, hp, hkind⟩, ha⟩
  · rintro ⟨i, ⟨p, hp, hkind⟩, hv⟩
    have hmem : (p, v) ∈ c.callable.params.zip c.args :=
      List.mem_of_getElem? (List.getElem?_zip_eq_some.2 ⟨hp, hv⟩)
    exact ⟨(p, v), hmem, by simp [hkind]⟩

theorem occupies_replaced {positions : Nat → Prop} {v : Var} :
    (c.replaced old new).Occupies positions v ↔
      v = new ∧ c.Occupies positions old ∨ v ≠ old ∧ c.Occupies positions v := by
  simp only [Occupies, replaced, List.getElem?_map, Option.map_eq_some_iff, Var.substitute_eq_iff]
  constructor
  · rintro ⟨i, hi, a, ha, ⟨rfl, rfl⟩ | ⟨hne, rfl⟩⟩
    · exact .inl ⟨rfl, i, hi, ha⟩
    · exact .inr ⟨hne, i, hi, ha⟩
  · rintro (⟨rfl, i, hi, ha⟩ | ⟨hne, i, hi, ha⟩)
    · exact ⟨i, hi, old, ha, .inl ⟨rfl, rfl⟩⟩
    · exact ⟨i, hi, v, ha, .inr ⟨hne, rfl⟩⟩

def replaceAt (old new : Var) (c : Call) (pos : Nat) : Call :=
  if c.args[pos]? = some old then { c with args := c.args.set pos new } else c

/-- The replacement carried out on a call in place: a check first, then one position after the
other. A failure leaves what is there by then. -/
def replaceInPlace (old new : Var) : ExceptT Misuse (StateM Call) Unit := do
  let c ← get
  if c.uses old then (List.range c.args.length).forM fun pos => modify (replaceAt old new · pos)
  else throw (.notAnArgument old c.callable)

theorem replaceAt_length (callable : Callable) (before : List Var) (a : Var) (after : List Var) :
    replaceAt old new ⟨callable, before ++ a :: after⟩ before.length =
      ⟨callable, before ++ Var.substitute old new a :: after⟩ := by
  have hget : (before ++ a :: after)[before.length]? = some a := by simp
  unfold replaceAt Var.substitute
  rw [hget]
  by_cases ha : a = old
  · rw [if_pos (congrArg some ha), if_pos ha]
    simp
  · rw [if_neg fun h => ha (Option.some.inj h), if_neg ha]

theorem foldl_replaceAt (callable : Callable) (before after : List Var) :
    (List.range' before.length after.length).foldl (replaceAt old new)
        ⟨callable, before ++ after⟩ =
      ⟨callable, before ++ after.map (Var.substitute old new)⟩ := by
  induction after generalizing before with
  | nil => rfl
  | cons a after ih =>
    have hrest := ih (before ++ [Var.substitute old new a])
    rw [List.length_append, List.append_assoc, List.append_assoc] at hrest
    rw [List.length_cons, List.range'_succ, List.foldl_cons, replaceAt_length]
    exact hrest

theorem run_forM_modify {σ ε α : Type} (f : σ → α → σ) (l : List α) (s : σ) :
    StateT.run (ExceptT.run (l.forM fun a => modify (f · a) : ExceptT ε (StateM σ) PUnit)) s =
      (.ok (), l.foldl f s) := by
  induction l generalizing s with
  | nil => rfl
  | cons a l ih => exact ih (f s a)

theorem run_replaceInPlace (old new : Var) (c : Call) :
    (replaceInPlace old new).run.run c = match c.replace old new with
      | .ok d => (.ok (), d)
      | .error e => (.error e, c) := by
  have hbody : (replaceInPlace old new).run.run c = StateT.run (ExceptT.run (if c.uses old then
      (List.range c.args.length).forM fun pos => modify (replaceAt old new · pos)
    else throw (.notAnArgument old c.callable))) c := rfl
  by_cases h : c.uses old
  · have hloop : (List.range c.args.length).foldl (replaceAt old new) c = c.replaced old new := by
      rw [List.range_eq_range']
      exact foldl_replaceAt c.callable [] c.args
    rw [hbody, if_pos h, run_forM_modify, hloop, replace_of_uses h]
  · rw [hbody, if_neg h, replace_of_not_uses h]
    rfl

end Call

/-- A question about variables, answered before a replacement and after it. The old variable has
lost the role asked for, the new one has it if it or the old one had it, and any other variable
among those asked about has it if it had it before. -/
structure RoleMoved (old new : Var) (among : Var → Prop) (before after : Var → Bool) : Prop where
  lost : new ≠ old → after old = false
  taken : after new = (before old || before new)
  kept {v : Var} : among v → v ≠ old → v ≠ new → after v = before v

theorem Call.roleMoved {old new : Var} {among : Var → Prop} (hold : among old) (hnew : among new)
    {before after : Var → Bool} {c : Call} {positions : Nat → Prop}
    (hbefore : ∀ v, among v → (before v ↔ c.Occupies positions v))
    (hafter : ∀ v, among v → (after v ↔ (c.replaced old new).Occupies positions v)) :
    RoleMoved old new among before after := by
  have hrole : ∀ v, among v → (after v ↔ v = new ∧ before old ∨ v ≠ old ∧ before v) := by
    intro v hv
    rw [hafter v hv, occupies_replaced, hbefore old hold, hbefore v hv]
  refine ⟨fun hne => ?_, ?_, fun {v} hv hvold hvnew => ?_⟩
  · rw [← Bool.not_eq_true, hrole old hold]
    simp [hne.symm]
  · rw [Bool.eq_iff_iff, Bool.or_eq_true, hrole new hnew]
    by_cases hne : new = old <;> simp [hne]
  · rw [Bool.eq_iff_iff, hrole v hv]
    simp [hvold, hvnew]

namespace Statement

structure Replaced (old new : Var) (s s' : Statement) : Prop where
  frame : ∃ c args result, s.action = .call c result ∧
    s' = { s with action := .call { c with args } result }
  length : s'.args.length = s.args.length
  placed {i : Nat} : s.args[i]? = some old → s'.args[i]? = some new
  untouched {i : Nat} {a : Var} : s.args[i]? = some a → a ≠ old → s'.args[i]? = some a
  uses : RoleMoved old new (fun _ => True) s.uses s'.uses
  mutates : RoleMoved old new (fun _ => True) s.mutates s'.mutates
  /-- For what is no reference, in whatever test cases the two statements stand. -/
  consumes : ¬ old.ty.isRef → ¬ new.ty.isRef → ∀ tc tc' : TestCase,
    RoleMoved old new (¬ ·.ty.isRef) (tc.consumes s) (tc'.consumes s')

theorem consumes_iff_occupies {sid : StmtId} {owner : UInt64} {c : Call} {result : Option Var}
    (tc : TestCase) {v : Var} (hv : ¬ v.ty.isRef) :
    tc.consumes ⟨sid, owner, .call c result⟩ v ↔
      c.Occupies (c.ParamAt (!·.isByReference)) v := by
  have hvalue : tc.consumes ⟨sid, owner, .call c result⟩ v = c.takesByValue v := if_neg hv
  rw [hvalue]
  exact Call.any_bindings_iff_occupies (!·.isByReference)

theorem replaced_of_call (old new : Var) (sid : StmtId) (owner : UInt64) (c : Call)
    (result : Option Var) : Replaced old new ⟨sid, owner, .call c result⟩
      ⟨sid, owner, .call (c.replaced old new) result⟩ := by
  have hget {i : Nat} {a : Var} (h : c.args[i]? = some a) :
      (c.replaced old new).args[i]? = some (Var.substitute old new a) :=
    List.getElem?_map.trans (congrArg _ h)
  refine ⟨⟨c, _, result, rfl, rfl⟩, List.length_map _, fun h => ?_, fun h ha => ?_, ?_, ?_, ?_⟩
  · exact (hget h).trans (congrArg some (if_pos rfl))
  · exact (hget h).trans (congrArg some (if_neg ha))
  · exact Call.roleMoved trivial trivial (fun _ _ => Call.uses_iff_occupies)
      fun _ _ => Call.uses_iff_occupies
  · exact Call.roleMoved trivial trivial (fun _ _ => Call.any_bindings_iff_occupies Param.isMutable)
      fun _ _ => Call.any_bindings_iff_occupies Param.isMutable
  · intro hold hnew tc tc'
    exact Call.roleMoved hold hnew (fun _ hv => consumes_iff_occupies tc hv)
      fun _ hv => consumes_iff_occupies tc' hv

/-- An argument of a call is replaced at each of its positions and nothing else is changed. What the
call did to the old variable it does to the new one afterwards, on top of what it did to that one
before, and what it does to other variables stays the same. What is no argument is not replaced; the
call is then as before, also if the replacement is carried out in place. -/
theorem replacement_exact {s : Statement} {c : Call} (hc : s.asCall = some c) (old new : Var) :
    (s.uses old → ∃ s' d, s.editCall (·.replace old new) = .ok s' ∧ s'.asCall = some d ∧
      Replaced old new s s' ∧ (Call.replaceInPlace old new).run.run c = (.ok (), d)) ∧
    (¬ s.uses old → s.editCall (·.replace old new) = .error (.notAnArgument old c.callable) ∧
      (Call.replaceInPlace old new).run.run c = (.error (.notAnArgument old c.callable), c)) := by
  obtain ⟨sid, owner, action⟩ := s
  cases action with
  | literal value v => cases hc
  | borrow target mutable v => cases hc
  | call c' result =>
    cases hc
    rw [Call.run_replaceInPlace]
    constructor
    · intro h
      have hok : c.replace old new = .ok (c.replaced old new) := Call.replace_of_uses h
      refine ⟨_, c.replaced old new, ?_, rfl, replaced_of_call old new sid owner c result, ?_⟩
      · simp only [editCall, hok]
        rfl
      · rw [hok]
    · intro h
      have herror : c.replace old new = .error (.notAnArgument old c.callable) :=
        Call.replace_of_not_uses h
      constructor
      · simp only [editCall, herror]
        rfl
      · rw [herror]

end Statement

namespace TestCase

def lamp : Var := ⟨4, .prim .bool⟩

def relay : Callable :=
  ⟨"relay", .function, none,
    [⟨none, .ref (.prim .bool) true⟩, ⟨none, .prim .bool⟩, ⟨none, .prim .bool⟩], none, [], .pub,
    none, none⟩

def relayed : Statement := ⟨3, 1, .call ⟨relay, [flag, lamp, flag]⟩ none⟩

theorem lamp_for_flag :
    relayed.asCall = some ⟨relay, [flag, lamp, flag]⟩ ∧
      (∃ s' d, relayed.editCall (·.replace flag lamp) = .ok s' ∧ s'.asCall = some d ∧
        Statement.Replaced flag lamp relayed s' ∧
        (Call.replaceInPlace flag lamp).run.run ⟨relay, [flag, lamp, flag]⟩ =
          (.ok (), d)) ∧
      relayed.editCall (·.replace flagRef lamp) = .error (.notAnArgument flagRef relay) ∧
      (Call.replaceInPlace flagRef lamp).run.run ⟨relay, [flag, lamp, flag]⟩ =
        (.error (.notAnArgument flagRef relay), ⟨relay, [flag, lamp, flag]⟩) := by
  have hcall : relayed.asCall = some ⟨relay, [flag, lamp, flag]⟩ := rfl
  exact ⟨hcall, (Statement.replacement_exact hcall flag lamp).1 (by decide),
    (Statement.replacement_exact hcall flagRef lamp).2 (by decide)⟩

end TestCase
end UnitTestGen
