import UnitTestGen.Proofs.Ty.Identity
import UnitTestGen.Proofs.Ty.Inference

/-! Instances of a template: what it becomes when types are put in for its parameters. The template
accepts an instance exactly if the bounds of each parameter admit the type put in for it, and then
the types put in can be inferred from the instance. An instance has parameters of its own where a
name is not bound, or is bound to a type that has some. -/

namespace UnitTestGen.Ty

/-- The type bound to a parameter of the template meets the bounds of that occurrence. -/
def Admissible (s : Binding) (t : Ty) : Prop :=
  ∀ n b, generic n b ∈ t.nodes → ∀ v, s[n]? = some v → b.admits v

theorem accepts_subst_iff {s : Binding} {t : Ty} : t.accepts (t.subst s) ↔ Admissible s t := by
  induction t using form_induction with
  | generic n b =>
    have hself : b.admits (generic n b) := accepts_refl (generic n b)
    rw [accepts, subst]
    cases hn : s[n]? <;> simp [Admissible, nodes_generic, hn, hself]
  | form t ht ih =>
    have hparts : t.accepts (t.subst s) ↔ ∀ p ∈ t.parts, p.accepts (p.subst s) := by
      rw [accepts_iff ht, form_subst ht, parts_subst ht, List.forall₂_map_right_iff,
        List.forall₂_same]
      exact and_iff_right (.refl _)
    rw [hparts]
    simp only [Admissible, generic_mem_nodes ht]
    constructor
    · rintro h n b ⟨p, hp, hn⟩
      exact (ih p hp).1 (h p hp) n b hn
    · intro h p hp
      exact (ih p hp).2 fun n b hn => h n b ⟨p, hp, hn⟩

theorem faces_subst_iff {s : Binding} {t : Ty} {n : String} {v : Ty} :
    Faces t (t.subst s) n v ↔ ∃ b, generic n b ∈ t.nodes ∧ v = s[n]?.getD (generic n b) := by
  induction t using form_induction with
  | generic m b =>
    rw [faces_generic, subst]
    constructor
    · rintro ⟨rfl, rfl⟩
      exact ⟨b, self_mem_nodes _, rfl⟩
    · rintro ⟨b', hb', rfl⟩
      obtain ⟨rfl, rfl⟩ : n = m ∧ b' = b := by simpa [nodes_generic] using hb'
      exact ⟨rfl, rfl⟩
  | form t ht ih =>
    have hzip : t.parts.zip (t.parts.map (subst s)) = t.parts.map fun p => (p, p.subst s) := by
      simpa using List.zip_map' (f := id) (g := subst s) (l := t.parts)
    rw [faces_iff ht, FacesAny, parts_subst ht, hzip]
    simp only [generic_mem_nodes ht]
    constructor
    · rintro ⟨_, hpq, h⟩
      obtain ⟨p, hp, rfl⟩ := List.mem_map.1 hpq
      obtain ⟨b, hb, hv⟩ := (ih p hp).1 h
      exact ⟨b, ⟨p, hp, hb⟩, hv⟩
    · rintro ⟨b, ⟨p, hp, hb⟩, hv⟩
      exact ⟨(p, p.subst s), List.mem_map_of_mem hp, (ih p hp).2 ⟨b, hb, hv⟩⟩

def restrict (s : Binding) (t : Ty) : Binding := s.filter fun n _ => decide (n ∈ t.paramNames)

theorem infer_subst {s : Binding} {t : Ty} (ha : Admissible s t)
    (hall : ∀ n ∈ t.paramNames, n ∈ s) : infer t (t.subst s) = some (restrict s t) := by
  refine infer_eq_some_iff.2 ⟨accepts_subst_iff.2 ha, fun n v => ?_⟩
  rw [restrict, Std.ExtTreeMap.getElem?_filter', Option.filter_eq_some_iff, faces_subst_iff,
    decide_eq_true_eq]
  constructor
  · rintro ⟨hv, hn⟩
    obtain ⟨b, hb⟩ := mem_paramNames.1 hn
    exact ⟨b, hb, by rw [hv, Option.getD_some]⟩
  · rintro ⟨b, hb, rfl⟩
    have hn : n ∈ t.paramNames := mem_paramNames.2 ⟨b, hb⟩
    obtain ⟨v, hv⟩ := Option.isSome_iff_exists.1 (Std.ExtTreeMap.mem_iff_isSome_getElem?.1 (hall n hn))
    rw [hv, Option.getD_some]
    exact ⟨rfl, hn⟩

theorem getElem?_restrict (s : Binding) (t : Ty) (n : String) :
    (restrict s t)[n]? = if n ∈ t.paramNames then s[n]? else none := by
  rw [restrict, Std.ExtTreeMap.getElem?_filter']
  cases s[n]? <;> simp [Option.filter]

theorem mem_paramNames_parts {t : Ty} (ht : ¬ t.isGeneric) {n : String} :
    n ∈ t.paramNames ↔ ∃ p ∈ t.parts, n ∈ p.paramNames := by
  simp only [mem_paramNames, generic_mem_nodes ht]
  constructor
  · rintro ⟨b, p, hp, hb⟩
    exact ⟨p, hp, b, hb⟩
  · rintro ⟨p, hp, b, hb⟩
    exact ⟨b, p, hp, hb⟩

theorem hasGenericParams_subst_iff {s : Binding} {t : Ty} :
    (t.subst s).hasGenericParams ↔
      ∃ n ∈ t.paramNames, ∀ u, s[n]? = some u → u.hasGenericParams := by
  induction t using form_induction with
  | generic n b =>
    have hname : ∀ m, m ∈ (generic n b).paramNames ↔ m = n := by
      intro m
      simp [mem_paramNames, nodes_generic]
    simp only [hname, exists_eq_left, subst]
    cases s[n]? <;> simp [hasGenericParams]
  | form t ht ih =>
    rw [hasGenericParams_iff (not_isGeneric_subst ht s), parts_subst ht]
    constructor
    · rintro ⟨_, hq, hopen⟩
      obtain ⟨p, hp, rfl⟩ := List.mem_map.1 hq
      obtain ⟨n, hn, hu⟩ := (ih p hp).1 hopen
      exact ⟨n, (mem_paramNames_parts ht).2 ⟨p, hp, hn⟩, hu⟩
    · rintro ⟨n, hn, hu⟩
      obtain ⟨p, hp, hnp⟩ := (mem_paramNames_parts ht).1 hn
      exact ⟨p.subst s, List.mem_map_of_mem hp, (ih p hp).2 ⟨n, hnp, hu⟩⟩

/-- The template accepts what it becomes under a binding exactly if the binding is admissible for
it; if the binding also has all its parameters, inference gives back what it says of them. -/
theorem instance_exact (s : Binding) (t : Ty) :
    (t.accepts (t.subst s) ↔ Admissible s t) ∧
      (Admissible s t → (∀ n ∈ t.paramNames, n ∈ s) →
        infer t (t.subst s) = some (restrict s t)) :=
  ⟨accepts_subst_iff, infer_subst⟩

def mixed : Ty := .tuple [.generic "T" (.ofList [TraitPath.debug]), .slice (.generic "T" ∅)]

def reopened : Binding :=
  .ofList [("T", .ref (.generic "T" (.ofList [TraitPath.debug])) false), ("V", .prim .bool)]

theorem infer_reopened :
    Admissible reopened mixed ∧ (∀ n ∈ mixed.paramNames, n ∈ reopened) ∧
      infer mixed (mixed.subst reopened) = some (restrict reopened mixed) := by
  have ha : Admissible reopened mixed := (instance_exact reopened mixed).1.1 (by decide)
  have hall : ∀ n ∈ mixed.paramNames, n ∈ reopened := by decide
  exact ⟨ha, hall, (instance_exact reopened mixed).2 ha hall⟩

end UnitTestGen.Ty
