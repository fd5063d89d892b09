import UnitTestGen.Proofs.Lookup
import UnitTestGen.Proofs.TestCase.Built
import UnitTestGen.Proofs.Ty.Instances

/-! The type of what a call returns. If the arguments have the types that one binding makes of the
parameters, every parameter tells of its own names what the binding says of them. So no two
parameters disagree, it does not matter which of them settles a name, and together they tell the
binding for all names that occur in the parameters. -/

namespace UnitTestGen

def Callable.paramTuple (c : Callable) : Ty := .tuple (c.params.map (·.ty))

namespace TestCase

open Ty

theorem getElem?_addUnbound (s t : Binding) (n : String) :
    (addUnbound s t)[n]? = s[n]?.or t[n]? := by
  have key : ∀ (l : List (String × Ty)) (s : Binding),
      (l.foldl (fun s p => s.insertIfNew p.1 p.2) s)[n]? =
        s[n]?.or ((l.find? (·.1 == n)).map (·.2)) := by
    intro l
    induction l with
    | nil => simp
    | cons p l ih =>
      intro s
      rw [List.foldl_cons, ih, Std.ExtTreeMap.getElem?_insertIfNew, List.find?_cons]
      by_cases hp : p.1 = n
      · subst hp
        cases hs : s[p.1]? <;> simp [Std.ExtTreeMap.mem_iff_isSome_getElem?, hs]
      · rw [if_neg fun h => hp (Std.compare_eq_iff_eq.1 h.1), beq_false_of_ne hp]
  rw [addUnbound, Std.ExtTreeMap.foldl_eq_foldl_toList, key, find?_toList]

theorem mem_paramNames_tuple {ts : List Ty} {n : String} :
    n ∈ (tuple ts).paramNames ↔ ∃ t ∈ ts, n ∈ t.paramNames :=
  mem_paramNames_parts (t := tuple ts) Bool.false_ne_true

theorem getElem?_restrict_cons (s : Binding) (t : Ty) (ts : List Ty) (n : String) :
    (restrict s (tuple (t :: ts)))[n]? = (restrict s t)[n]?.or (restrict s (tuple ts))[n]? := by
  have hcons : n ∈ (tuple (t :: ts)).paramNames ↔
      n ∈ t.paramNames ∨ n ∈ (tuple ts).paramNames := by
    simp only [mem_paramNames_tuple, List.mem_cons, or_and_right, exists_or, exists_eq_left]
  simp only [getElem?_restrict, hcons]
  by_cases ht : n ∈ t.paramNames <;> by_cases hts : n ∈ (tuple ts).paramNames <;> simp [ht, hts]

theorem getElem?_inferred {s : Binding} {bindings : List (Param × Var)}
    (h : ∀ p ∈ bindings, infer p.1.ty p.2.ty = some (restrict s p.1.ty)) (acc : Binding)
    (n : String) :
    (bindings.foldl (fun s (p, a) => ((infer p.ty a.ty).map (addUnbound s)).getD s) acc)[n]? =
      acc[n]?.or (restrict s (tuple (bindings.map (·.1.ty))))[n]? := by
  induction bindings generalizing acc with
  | nil => simp [getElem?_restrict, mem_paramNames_tuple]
  | cons p bindings ih =>
    obtain ⟨hp, hrest⟩ := List.forall_mem_cons.1 h
    rw [List.foldl_cons, ih hrest, List.map_cons, getElem?_restrict_cons]
    dsimp only
    rw [hp, Option.map_some, Option.getD_some, getElem?_addUnbound, Option.or_assoc]

theorem inferBinding_eq {s : Binding} {callable : Callable} {args : List Var}
    (hs : ∀ p ∈ callable.params, Admissible s p.ty ∧ ∀ n ∈ p.ty.paramNames, n ∈ s)
    (hargs : args.map Var.ty = callable.params.map fun p => p.ty.subst s) :
    inferBinding ⟨callable, args⟩ = restrict s callable.paramTuple := by
  have hpairs : List.Forall₂ (fun p a => p.ty.subst s = a.ty) callable.params args := by
    rw [← List.forall₂_map_left_iff (R := fun t (a : Var) => t = a.ty)
      (f := fun p : Param => p.ty.subst s), ← List.forall₂_map_right_iff (f := Var.ty),
      List.forall₂_eq_eq_eq]
    exact hargs.symm
  have hinfer : ∀ p ∈ callable.params.zip args,
      infer p.1.ty p.2.ty = some (restrict s p.1.ty) := by
    rintro ⟨p, a⟩ hpa
    obtain ⟨hadm, hall⟩ := hs p (List.of_mem_zip hpa).1
    rw [← List.forall₂_zip hpairs hpa]
    exact infer_subst hadm hall
  have hparams : (callable.params.zip args).map (·.1.ty) = callable.params.map (·.ty) := by
    have hfst : (callable.params.zip args).map Prod.fst = callable.params :=
      List.map_fst_zip (Nat.le_of_eq hpairs.length_eq)
    conv => rhs; rw [← hfst, List.map_map]
    rfl
  refine Std.ExtTreeMap.ext_getElem? fun n => ?_
  rw [inferBinding, Call.bindings, getElem?_inferred hinfer, hparams]
  rfl

/-- A callable that returns a value, applied to arguments of the types that a binding makes of its
parameters, gives a variable of the type that the binding makes of the return type, as far as the
parameters mention its names. The type has a parameter left exactly if the return type has a name
that the parameters do not mention, or one that is bound to a type with a parameter. -/
theorem result_type_exact {callable : Callable} {ret : Ty} (hret : callable.returnType = some ret)
    (hvalue : callable.returnsValue) {s : Binding}
    (hs : ∀ p ∈ callable.params, Admissible s p.ty ∧ ∀ n ∈ p.ty.paramNames, n ∈ s)
    (tc : TestCase) (sid : StmtId) {args : List Var}
    (hargs : args.map Var.ty = callable.params.map fun p => p.ty.subst s) :
    ∃ v tc', tc.pushCall sid callable args = .ok (some v, tc') ∧
      tc'.stmts = tc.stmts ++ [⟨sid, tc.id, .call ⟨callable, args⟩ (some v)⟩] ∧
      v.ty = ret.subst (restrict s callable.paramTuple) ∧
      (v.ty.hasGenericParams ↔ ∃ n ∈ ret.paramNames,
        n ∉ callable.paramTuple.paramNames ∨ ∃ u, s[n]? = some u ∧ u.hasGenericParams) := by
  have hlen : args.length = callable.params.length := by
    simpa using congrArg List.length hargs
  have hpush : tc.pushCall sid callable args =
      .ok (some ⟨tc.nextVar, ret.subst (restrict s callable.paramTuple)⟩,
        { tc with nextVar := tc.nextVar + 1 }.push sid (.call ⟨callable, args⟩
          (some ⟨tc.nextVar, ret.subst (restrict s callable.paramTuple)⟩))) := by
    rw [pushCall, Call.make, if_pos hlen]
    simp only [bind, Except.bind, hvalue, if_true, hret, freshVar, inferBinding_eq hs hargs]
  refine ⟨_, _, hpush, rfl, rfl, ?_⟩
  rw [hasGenericParams_subst_iff]
  refine exists_congr fun n => and_congr_right fun _ => ?_
  rw [getElem?_restrict]
  by_cases hn : n ∈ callable.paramTuple.paramNames
  · obtain ⟨t, ht, hnt⟩ := mem_paramNames_tuple.1 hn
    obtain ⟨p, hp, rfl⟩ := List.mem_map.1 ht
    -- a name that is mentioned is bound
    obtain ⟨u, hu⟩ := Option.isSome_iff_exists.1
      (Std.ExtTreeMap.mem_iff_isSome_getElem?.1 ((hs p hp).2 n hnt))
    simp [hn, hu]
  · simp [hn]

def gather : Callable :=
  ⟨"gather", .function, none,
    [⟨none, .ref (.generic "T" (.ofList [TraitPath.debug])) false⟩,
      ⟨none, .tuple [.slice (.generic "T" ∅), .generic "U" ∅]⟩],
    some (.tuple [.generic "T" ∅, .generic "U" ∅, .generic "V" ∅]), [], .pub, none, none⟩

def gathered : Binding :=
  .ofList [("T", .prim .u8), ("U", .ref (.prim .str) false), ("V", .prim .bool)]

def gatheredArgs : List Var :=
  [⟨0, .ref (.prim .u8) false⟩, ⟨1, .tuple [.slice (.prim .u8), .ref (.prim .str) false]⟩]

theorem gather_result :
    ∃ v tc', (new 1).pushCall 0 gather gatheredArgs = .ok (some v, tc') ∧
      v.ty = .tuple [.prim .u8, .ref (.prim .str) false, .generic "V" ∅] ∧
      v.ty.hasGenericParams := by
  have hs : ∀ p ∈ gather.params,
      Admissible gathered p.ty ∧ ∀ n ∈ p.ty.paramNames, n ∈ gathered := by
    have hacc : ∀ p ∈ gather.params, p.ty.accepts (p.ty.subst gathered) ∧
        ∀ n ∈ p.ty.paramNames, n ∈ gathered := by decide
    exact fun p hp => ⟨accepts_subst_iff.1 (hacc p hp).1, (hacc p hp).2⟩
  have hargs : gatheredArgs.map Var.ty = gather.params.map fun p => p.ty.subst gathered := by decide
  have hret : gather.returnType =
      some (.tuple [.generic "T" ∅, .generic "U" ∅, .generic "V" ∅]) := rfl
  obtain ⟨v, tc', hpush, _, hty, hopen⟩ := result_type_exact hret (by decide) hs (new 1) 0 hargs
  refine ⟨v, tc', hpush, ?_, hopen.2 ⟨"V", by decide, .inl (by decide)⟩⟩
  rw [hty]
  simp only [subst, substAll, getElem?_restrict]
  decide

end TestCase
end UnitTestGen
