import UnitTestGen.Proofs.Ty.Instances

/-! Laws of putting types in for parameters. Two bindings put in one after the other are one binding
put in, and clearing recorded traits may be done before or after, as long as it is done to the types
put in as well. A parameter is reached wherever it stands, also in what a function takes and gives,
since forms keep their parts in place. -/

namespace UnitTestGen

namespace Binding

/-- What the first binding binds with the second put in, and what only the second binds. -/
def andThen (s u : Binding) : Binding := u ∪ s.map fun _ t => t.subst u

def keyed (s : Binding) : Binding := s.map fun _ t => t.key

theorem getElem?_andThen (s u : Binding) (n : String) :
    (s.andThen u)[n]? = (s[n]?.map (Ty.subst u)).or u[n]? := by
  rw [andThen, Std.ExtTreeMap.getElem?_union, Std.ExtTreeMap.getElem?_map]

theorem getElem?_keyed (s : Binding) (n : String) : s.keyed[n]? = s[n]?.map Ty.key := by
  rw [keyed, Std.ExtTreeMap.getElem?_map]

end Binding

namespace Ty

theorem subst_subst (s u : Binding) (t : Ty) : (t.subst s).subst u = t.subst (s.andThen u) := by
  induction t using form_induction with
  | generic n b =>
    rw [subst, subst, Binding.getElem?_andThen]
    cases s[n]? with
    | none => rfl
    | some v => rfl
  | form t ht ih =>
    have hs : ¬ (t.subst s).isGeneric := not_isGeneric_subst ht s
    apply eq_of_parts
    · rw [form_subst hs, form_subst ht, form_subst ht]
    · rw [recorded_subst hs, recorded_subst ht, recorded_subst ht]
    · rw [parts_subst hs, parts_subst ht, parts_subst ht, List.map_map]
      exact List.map_congr_left ih

theorem key_subst (s : Binding) (t : Ty) : (t.subst s).key = t.key.subst s.keyed := by
  induction t using form_induction with
  | generic n b =>
    rw [subst, key, subst, Binding.getElem?_keyed]
    cases s[n]? with
    | none => rfl
    | some v => rfl
  | form t ht ih =>
    have hkey : ¬ t.key.isGeneric := by rwa [isGeneric_key]
    apply eq_of_parts
    · rw [form_key, form_subst ht, form_subst hkey, form_key]
    · rw [recorded_key, recorded_subst hkey, recorded_key]
    · rw [parts_key, parts_subst ht, parts_subst hkey, parts_key, List.map_map, List.map_map]
      exact List.map_congr_left ih

/-- Substitutions compose, an instance has parameters exactly where the binding leaves or brings
some, and the key of an instance is the instance of the key with keys put in. -/
theorem substitution_exact (s u : Binding) (t : Ty) :
    ((t.subst s).subst u = t.subst (s.andThen u) ∧
      ∀ n : String, (s.andThen u)[n]? = (s[n]?.map (subst u)).or u[n]?) ∧
    ((t.subst s).hasGenericParams ↔
      ∃ n b, generic n b ∈ t.nodes ∧ (s[n]? = none ∨ ∃ v, s[n]? = some v ∧ v.hasGenericParams)) ∧
    ((t.subst s).key = t.key.subst s.keyed ∧
      ∀ n : String, s.keyed[n]? = s[n]?.map key) := by
  refine ⟨⟨subst_subst s u t, Binding.getElem?_andThen s u⟩, ?_,
    ⟨key_subst s t, Binding.getElem?_keyed s⟩⟩
  rw [hasGenericParams_subst_iff]
  constructor
  · rintro ⟨n, hn, hopen⟩
    obtain ⟨b, hb⟩ := mem_paramNames.1 hn
    refine ⟨n, b, hb, ?_⟩
    cases hv : s[n]? with
    | none => exact .inl rfl
    | some v => exact .inr ⟨v, rfl, hopen v hv⟩
  · rintro ⟨n, b, hb, hbound⟩
    refine ⟨n, mem_paramNames.2 ⟨b, hb⟩, fun w hw => ?_⟩
    rcases hbound with hnone | ⟨v, hv, hopen⟩
    · exact nomatch hnone.symm.trans hw
    · rwa [← Option.some.inj (hv.symm.trans hw)]

example :
    let s : Binding := .ofList [("T", .slice (.generic "U" ∅))]
    let u : Binding := .ofList [("T", .prim .bool), ("U", .generic "T" ∅)]
    ((Ty.fn [.generic "T" ∅] (some (.generic "U" ∅))).subst s).subst u =
      .fn [.slice (.generic "T" ∅)] (some (.generic "T" ∅)) := by
  decide

end Ty
end UnitTestGen
