import UnitTestGen.Proofs.Ty.Sightings
import UnitTestGen.Registry.Basic

/-! When the order of discovery shows in a table. Only the first sighting under a key that the table
does not hold yet can show, and only by the traits it carries below the top; so two orders give one
table exactly if the first sightings agree apart from the traits at the top. -/

namespace UnitTestGen

namespace TypeTable

/-- Under every key that the table does not hold, two lists of types start with the same form. -/
def SameForms (table : TypeTable) (ts us : List Ty) : Prop :=
  ∀ k, table[k]? = none →
    (ts.findSome? (·.firstUnder k)).map Ty.bare = (us.findSome? (·.firstUnder k)).map Ty.bare

theorem getElem?_discoverAll_perm (table : TypeTable) {ts us : List Ty} (h : ts.Perm us) (k : Ty) :
    (table.discoverAll ts)[k]? = (table.discoverAll us)[k]? ↔
      (table[k]? = none → (ts.findSome? (·.firstUnder k)).map Ty.bare =
        (us.findSome? (·.firstUnder k)).map Ty.bare) := by
  have hperm := sightings_perm k h
  rw [getElem?_discoverAll, getElem?_discoverAll]
  cases table[k]? with
  | some kept =>
    rw [foldl_sighted_some, foldl_sighted_some, Ty.foldl_mergeTraits_perm hperm]
    exact ⟨fun _ hn => (nomatch hn), fun _ => rfl⟩
  | none =>
    rw [foldl_sighted_none, foldl_sighted_none, head?_sightings, head?_sightings]
    simp only [Ty.foldl_mergeTraits_perm hperm]
    -- the form of an entry is that of the first sighting, and the traits at its top are the same
    constructor
    · intro heq _
      have hbare := congrArg (Option.map Ty.bare) heq
      simpa only [Option.map_map, Function.comp_def, Ty.bare_foldl_mergeTraits, Ty.bare_bare]
        using hbare
    · intro heq
      have hmerged := congrArg (Option.map ((sightings k us).foldl Ty.mergeTraits)) (heq trivial)
      simpa only [Option.map_map, Function.comp_def] using hmerged

theorem discoverAll_perm_iff (table : TypeTable) {ts us : List Ty} (h : ts.Perm us) :
    table.discoverAll ts = table.discoverAll us ↔ table.SameForms ts us := by
  constructor
  · intro heq k
    exact (getElem?_discoverAll_perm table h k).1 (congrArg (·[k]?) heq)
  · intro hsame
    exact Std.ExtTreeMap.ext_getElem? fun k => (getElem?_discoverAll_perm table h k).2 (hsame k)

/-- Under a key that the table does not hold, any two of the types are first seen in one form. -/
def Uniform (table : TypeTable) (ts : List Ty) : Prop :=
  ∀ t ∈ ts, ∀ u ∈ ts, ∀ k, table[k]? = none →
    ∀ a ∈ t.firstUnder k, ∀ b ∈ u.firstUnder k, a.bare = b.bare

theorem Uniform.sameForms {table : TypeTable} {ts us : List Ty} (hu : table.Uniform ts)
    (h : us.Perm ts) : table.SameForms us ts := by
  intro k hk
  cases hus : us.findSome? (·.firstUnder k) with
  | none =>
    have hts : ts.findSome? (·.firstUnder k) = none := by
      rw [List.findSome?_eq_none_iff] at hus ⊢
      exact fun t ht => hus t (h.mem_iff.2 ht)
    rw [hts]
  | some a =>
    obtain ⟨t, ht, ha⟩ := List.exists_of_findSome?_eq_some hus
    cases hts : ts.findSome? (·.firstUnder k) with
    | none =>
      have hnone := List.findSome?_eq_none_iff.1 hts t (h.mem_iff.1 ht)
      exact nomatch hnone.symm.trans ha
    | some b =>
      obtain ⟨u, hu', hb⟩ := List.exists_of_findSome?_eq_some hts
      exact congrArg some (hu t (h.mem_iff.1 ht) u hu' k hk a ha b hb)

theorem bare_firstUnder_of_sameForms {table : TypeTable} {ts : List Ty} {t : Ty}
    (hs : table.SameForms (t :: ts.erase t) ts) {k a : Ty} (hk : table[k]? = none)
    (ha : a ∈ t.firstUnder k) : some a.bare = (ts.findSome? (·.firstUnder k)).map Ty.bare := by
  have hfirst := hs k hk
  rw [List.findSome?_cons, Option.mem_def.1 ha] at hfirst
  exact hfirst

theorem forall_discoverAll_perm_iff (table : TypeTable) (ts : List Ty) :
    (∀ us, us.Perm ts → table.discoverAll us = table.discoverAll ts) ↔ table.Uniform ts := by
  constructor
  · intro hall t ht u hu k hk a ha b hb
    -- each of the two is moved to the front, where it is the first one to be seen
    have hfront {v : Ty} (hv : v ∈ ts) : table.SameForms (v :: ts.erase v) ts := by
      have hperm := (List.perm_cons_erase hv).symm
      exact (discoverAll_perm_iff table hperm).1 (hall _ hperm)
    have hta := bare_firstUnder_of_sameForms (hfront ht) hk ha
    have hub := bare_firstUnder_of_sameForms (hfront hu) hk hb
    exact Option.some.inj (hta.trans hub.symm)
  · intro hu us h
    exact (discoverAll_perm_iff table h).2 (hu.sameForms h)

end TypeTable

namespace Registry

def mentioned (discovered : List Callable) (seed : UInt64) : List Ty :=
  (ofCallables discovered seed).callables.flatMap Callable.signatureTypes

theorem mentioned_perm (discovered : List Callable) (seed seed' : UInt64) :
    (mentioned discovered seed).Perm (mentioned discovered seed') := by
  have hshuffle := (Shuffle.shuffle_perm seed (candidates discovered)).trans
    (Shuffle.shuffle_perm seed' (candidates discovered)).symm
  simp only [mentioned, ofCallables, withTable]
  exact hshuffle.flatMap_right Callable.signatureTypes

theorem table_ofCallables (discovered : List Callable) (seed : UInt64) :
    (ofCallables discovered seed).table =
      Builtin.seededTable.discoverAll (mentioned discovered seed) := by
  simp only [mentioned, ofCallables, withTable]

end Registry

namespace TypeTable

/-- Two orders of discovery give one table exactly if they start with the same forms; all orders do
exactly if any two of the types are first seen in the same form; and so it is with two seeds. -/
theorem discovery_order_exact (table : TypeTable) (ts : List Ty) :
    (∀ us, us.Perm ts →
      (table.discoverAll us = table.discoverAll ts ↔ table.SameForms us ts)) ∧
    ((∀ us, us.Perm ts → table.discoverAll us = table.discoverAll ts) ↔ table.Uniform ts) ∧
    ∀ discovered seed seed',
      (Registry.ofCallables discovered seed).table =
          (Registry.ofCallables discovered seed').table ↔
        Builtin.seededTable.SameForms (Registry.mentioned discovered seed)
          (Registry.mentioned discovered seed') := by
  refine ⟨fun us h => discoverAll_perm_iff table h, forall_discoverAll_perm_iff table ts, ?_⟩
  intro discovered seed seed'
  rw [Registry.table_ofCallables, Registry.table_ofCallables]
  exact discoverAll_perm_iff _ (Registry.mentioned_perm discovered seed seed')

def listOf (traits : TraitSet) : Ty := .struct "List" [.adt .struct "A" [] traits]

theorem not_forall_discoverAll_perm :
    ¬ ∀ seen ts us : List Ty, us.Perm ts →
      (empty.discoverAll seen).discoverAll us = (empty.discoverAll seen).discoverAll ts := by
  intro h
  have heq := h [] [listOf ∅, listOf (.ofList [TraitPath.debug])]
    [listOf (.ofList [TraitPath.debug]), listOf ∅] (.swap _ _ _)
  have htraits := congrArg (fun table => table.types.map fun t => t.generics.map fun g =>
    g.traits.toList) heq
  exact absurd htraits (by decide +kernel)

end TypeTable
end UnitTestGen
