import Mathlib.Data.Set.Insert
import UnitTestGen.Registry.Basic

/-! What a table holds. The types that a table was given are taken as the tabled types that are
reached in them, and entering one of these keeps an invariant: there is one entry for each of their
keys, it stands under its own key, and its traits are those of all of them that go under that key.
Everything else that is asked of a table is read off this. -/

namespace UnitTestGen

namespace Ty

inductive Reaches : Ty → Ty → Prop
  | self (t : Ty) : Reaches t t
  | ref {t u : Ty} (mutable : Bool) (h : Reaches t u) : Reaches (.ref t mutable) u
  | tuple {ts : List Ty} {t u : Ty} (ht : t ∈ ts) (h : Reaches t u) : Reaches (.tuple ts) u
  | array {t u : Ty} (len : UInt64) (h : Reaches t u) : Reaches (.array t len) u
  | slice {t u : Ty} (h : Reaches t u) : Reaches (.slice t) u

theorem mem_tabledParts {t u : Ty} : u ∈ t.tabledParts ↔ u.isTabled ∧ t.Reaches u := by
  constructor
  · intro h
    induction t using Ty.induction with
    | prim p => cases h
    | generic n b => cases h
    | tuple ts ih =>
      rw [tabledParts, tabledPartsAll_eq_flatMap, List.mem_flatMap] at h
      obtain ⟨t, ht, hu⟩ := h
      exact (ih t ht hu).imp_right (.tuple ht)
    | array t n ih => exact (ih h).imp_right (.array n)
    | slice t ih => exact (ih h).imp_right .slice
    | ref t m ih => exact (ih h).imp_right (.ref m)
    | _ =>
      obtain rfl := List.mem_singleton.1 h
      exact ⟨rfl, .self _⟩
  · rintro ⟨hu, h⟩
    induction h with
    | self t =>
      cases t with
      | prim p => cases hu
      | generic n b => cases hu
      | tuple ts => cases hu
      | array t n => cases hu
      | slice t => cases hu
      | ref t m => cases hu
      | _ => exact List.mem_singleton_self _
    | tuple ht h ih =>
      rw [tabledParts, tabledPartsAll_eq_flatMap, List.mem_flatMap]
      exact ⟨_, ht, ih hu⟩
    | ref m h ih => exact ih hu
    | array n h ih => exact ih hu
    | slice h ih => exact ih hu

theorem key_mergeTraits (t u : Ty) : (t.mergeTraits u).key = t.key := by
  unfold mergeTraits
  split <;> rfl

theorem isTabled_mergeTraits (t u : Ty) : (t.mergeTraits u).isTabled = t.isTabled := by
  unfold mergeTraits
  split <;> rfl

theorem mem_traits_mergeTraits {t u : Ty} (hkey : u.key = t.key) (ht : t.isTabled) {p : String} :
    p ∈ (t.mergeTraits u).traits ↔ p ∈ t.traits ∨ p ∈ u.traits := by
  cases t with
  | adt k n gs tr =>
    cases u with
    | adt k' n' gs' tr' => exact Std.ExtTreeSet.mem_union_iff
    | fn ps r => cases r <;> cases hkey
    | _ => cases hkey
  | traitObj n b =>
    cases u with
    | traitObj n' b' =>
      cases hkey
      exact (or_self_iff).symm
    | fn ps r => cases r <;> cases hkey
    | _ => cases hkey
  | fn ps r =>
    cases u with
    | fn ps' r' => exact (or_self_iff).symm
    | _ => cases r <;> cases hkey
  | _ => cases ht

theorem mergeTraits_eq_self {t u : Ty} (h : ∀ p ∈ u.traits, p ∈ t.traits) :
    t.mergeTraits u = t := by
  cases t with
  | adt k n gs tr =>
    cases u with
    | adt k' n' gs' tr' =>
      have htr : tr ∪ tr' = tr := Std.ExtTreeSet.ext_mem fun p => by
        rw [Std.ExtTreeSet.mem_union_iff]
        exact or_iff_left_of_imp (h p)
      exact congrArg (adt k n gs) htr
    | _ => rfl
  | _ => rfl

end Ty

namespace TypeTable

variable {table : TypeTable} {nodes seen : Set Ty} {t k : Ty} {entry : Option Ty}

/-- What stands under a key once some types have been entered: nothing if none of them has the key,
and else an entry with that key and with the traits of all of them that have it. -/
structure EntryOf (nodes : Set Ty) (k : Ty) (entry : Option Ty) : Prop where
  isSome_iff : entry.isSome ↔ ∃ u ∈ nodes, u.key = k
  key_eq : ∀ e ∈ entry, e.key = k
  isTabled : ∀ e ∈ entry, e.isTabled
  mem_traits_iff : ∀ e ∈ entry, ∀ p, p ∈ e.traits ↔ ∃ u ∈ nodes, u.key = k ∧ p ∈ u.traits

namespace EntryOf

theorem empty (k : Ty) : EntryOf ∅ k none where
  isSome_iff := by simp
  key_eq := by simp
  isTabled := by simp
  mem_traits_iff := by simp

theorem insert_of_ne (h : EntryOf nodes k entry) (hk : t.key ≠ k) :
    EntryOf (insert t nodes) k entry where
  isSome_iff := by rw [Set.exists_mem_insert, or_iff_right hk, h.isSome_iff]
  key_eq := h.key_eq
  isTabled := h.isTabled
  mem_traits_iff e he p := by
    rw [Set.exists_mem_insert, or_iff_right fun ht => hk ht.1, h.mem_traits_iff e he]

theorem insert_none (h : EntryOf nodes t.key none) (ht : t.isTabled) :
    EntryOf (insert t nodes) t.key (some t) where
  isSome_iff := by simp
  key_eq := by simp
  isTabled := by simpa using ht
  mem_traits_iff := by
    have hfresh : ∀ u ∈ nodes, u.key ≠ t.key := fun u hu hkey =>
      absurd (h.isSome_iff.2 ⟨u, hu, hkey⟩) Bool.false_ne_true
    rintro _ ⟨⟩ p
    rw [Set.exists_mem_insert, or_iff_left]
    · exact (and_iff_right rfl).symm
    · rintro ⟨u, hu, hkey, -⟩
      exact hfresh u hu hkey

theorem insert_some {kept : Ty} (h : EntryOf nodes t.key (some kept)) :
    EntryOf (insert t nodes) t.key (some (kept.mergeTraits t)) where
  isSome_iff := by simp
  key_eq := by
    rintro _ ⟨⟩
    rw [Ty.key_mergeTraits, h.key_eq kept rfl]
  isTabled := by
    rintro _ ⟨⟩
    rw [Ty.isTabled_mergeTraits, h.isTabled kept rfl]
  mem_traits_iff := by
    rintro _ ⟨⟩ p
    rw [Ty.mem_traits_mergeTraits (h.key_eq kept rfl).symm (h.isTabled kept rfl),
      h.mem_traits_iff kept rfl, Set.exists_mem_insert, and_iff_right rfl, or_comm]

end EntryOf

def Holds (table : TypeTable) (nodes : Set Ty) : Prop := ∀ k : Ty, EntryOf nodes k table[k]?

theorem union_mem_cons (nodes : Set Ty) (t : Ty) (ts : List Ty) :
    nodes ∪ {u | u ∈ t :: ts} = insert t nodes ∪ {u | u ∈ ts} := by
  ext u
  simp only [Set.mem_union, Set.mem_insert_iff, Set.mem_ofPred_eq, List.mem_cons]
  rw [or_left_comm, or_assoc]

namespace Holds

theorem empty : Holds TypeTable.empty ∅ := by
  intro k
  rw [TypeTable.empty, Std.ExtTreeMap.getElem?_empty]
  exact .empty k

theorem enter (h : Holds table nodes) (ht : t.isTabled) :
    Holds (table.enter t) (insert t nodes) := by
  intro k
  rw [getElem?_enter]
  split
  · rename_i hk
    subst hk
    have hk := h t.key
    cases hkept : table[t.key]? with
    | none => exact (hkept ▸ hk).insert_none ht
    | some kept => exact (hkept ▸ hk).insert_some
  · rename_i hk
    exact (h k).insert_of_ne hk

theorem foldl_enter {ts : List Ty} (hts : ∀ t ∈ ts, t.isTabled) (h : Holds table nodes) :
    Holds (ts.foldl TypeTable.enter table) (nodes ∪ {t | t ∈ ts}) := by
  induction ts generalizing table nodes with
  | nil => simpa using h
  | cons t ts ih =>
    rw [union_mem_cons]
    exact ih (fun u hu => hts u (List.mem_cons_of_mem t hu)) (h.enter (hts t List.mem_cons_self))

theorem enter_eq_self (h : Holds table nodes) (ht : t ∈ nodes) : table.enter t = table := by
  obtain ⟨e, he⟩ := Option.isSome_iff_exists.1 ((h t.key).isSome_iff.2 ⟨t, ht, rfl⟩)
  have hmerged : e.mergeTraits t = e := by
    apply Ty.mergeTraits_eq_self
    intro p hp
    exact ((h t.key).mem_traits_iff e he p).2 ⟨t, ht, rfl, hp⟩
  refine Std.ExtTreeMap.ext_getElem? fun k => ?_
  rw [getElem?_enter]
  split
  · rename_i hk
    subst hk
    simp only [he, hmerged]
  · rfl

end Holds

def reached (seen : Set Ty) : Set Ty := {u | u.isTabled ∧ ∃ t ∈ seen, t.Reaches u}

theorem reached_union (seen : Set Ty) (ts : List Ty) :
    reached (seen ∪ {t | t ∈ ts}) = reached seen ∪ {u | u ∈ ts.flatMap Ty.tabledParts} := by
  ext u
  simp only [reached, Set.mem_union, Set.mem_ofPred_eq, List.mem_flatMap, Ty.mem_tabledParts]
  grind

/-- Tables that started out empty or with the built-in types, and the types discovered since. -/
inductive Discovered : TypeTable → Set Ty → Prop
  | empty : Discovered .empty ∅
  | seeded : Discovered Builtin.seededTable {t | t ∈ Builtin.seedTypes}
  | discover {table : TypeTable} {seen : Set Ty} (t : Ty) (h : Discovered table seen) :
      Discovered (table.discover t) (insert t seen)

namespace Holds

theorem discoverAll (h : Holds table (reached seen)) (ts : List Ty) :
    Holds (table.discoverAll ts) (reached (seen ∪ {t | t ∈ ts})) := by
  have htabled : ∀ u ∈ ts.flatMap Ty.tabledParts, u.isTabled := by
    intro u hu
    obtain ⟨t, -, hu⟩ := List.mem_flatMap.1 hu
    exact (Ty.mem_tabledParts.1 hu).1
  have hfold := h.foldl_enter htabled
  rw [List.foldl_flatMap] at hfold
  rw [reached_union]
  exact hfold

theorem discover_eq_self (h : Holds table (reached seen)) {t : Ty} (ht : t ∈ seen) :
    table.discover t = table := by
  have hparts : ∀ u ∈ t.tabledParts, u ∈ reached seen := by
    intro u hu
    obtain ⟨htabled, hreach⟩ := Ty.mem_tabledParts.1 hu
    exact ⟨htabled, t, ht, hreach⟩
  unfold TypeTable.discover
  generalize t.tabledParts = us at hparts
  induction us with
  | nil => rfl
  | cons u us ih =>
    rw [List.foldl_cons, h.enter_eq_self (hparts u List.mem_cons_self)]
    exact ih fun v hv => hparts v (List.mem_cons_of_mem u hv)

theorem mem_types_iff (h : Holds table nodes) {e : Ty} :
    e ∈ table.types ↔ table[e.key]? = some e := by
  unfold types
  constructor
  · intro he
    obtain ⟨⟨k, e'⟩, hmem, rfl⟩ := List.mem_map.1 he
    have hentry : table[k]? = some e' := Std.ExtTreeMap.mem_toList_iff_getElem?_eq_some.1 hmem
    rwa [(h k).key_eq e' hentry]
  · intro he
    exact List.mem_map.2 ⟨(e.key, e), Std.ExtTreeMap.mem_toList_iff_getElem?_eq_some.2 he, rfl⟩

theorem nodup_types (h : Holds table nodes) : table.types.Nodup := by
  have hkeys : table.types.map Ty.key = table.keys := by
    rw [← Std.ExtTreeMap.map_fst_toList_eq_keys, types, List.map_map]
    apply List.map_congr_left
    rintro ⟨k, e⟩ hmem
    exact (h k).key_eq e (Std.ExtTreeMap.mem_toList_iff_getElem?_eq_some.1 hmem)
  have hnodup : (table.types.map Ty.key).Nodup := hkeys ▸ Std.ExtTreeMap.nodup_keys
  exact List.Pairwise.of_map Ty.key (fun _ _ hne heq => hne (congrArg Ty.key heq)) hnodup

end Holds

namespace Discovered

theorem discoverAll (h : Discovered table seen) (ts : List Ty) :
    Discovered (table.discoverAll ts) (seen ∪ {t | t ∈ ts}) := by
  induction ts generalizing table seen with
  | nil => simpa [TypeTable.discoverAll] using h
  | cons t ts ih =>
    rw [union_mem_cons]
    exact ih (h.discover t)

theorem holds (h : Discovered table seen) : Holds table (reached seen) := by
  have hempty : Holds TypeTable.empty (reached ∅) := by
    have hnone : reached ∅ = ∅ := by simp [reached]
    rw [hnone]
    exact .empty
  induction h with
  | empty => exact hempty
  | seeded =>
    have hseeds := hempty.discoverAll Builtin.seedTypes
    rwa [Set.empty_union] at hseeds
  | @discover table seen t h ih =>
    have hstep := ih.discoverAll [t]
    rw [union_mem_cons] at hstep
    simpa [TypeTable.discoverAll] using hstep

end Discovered

structure Contents (table : TypeTable) (seen : Set Ty) : Prop where
  entries : ∀ k : Ty, EntryOf (reached seen) k table[k]?
  discover_again : ∀ t ∈ seen, table.discover t = table
  nodup_implementing : ∀ bounds, (table.implementing bounds).Nodup
  mem_implementing_iff : ∀ bounds e, e ∈ table.implementing bounds ↔
    table[e.key]? = some e ∧ ∀ b ∈ bounds, b ≠ TraitPath.sized →
      ∃ u ∈ reached seen, u.key = e.key ∧ b ∈ u.traits

theorem Holds.contents (h : Holds table (reached seen)) : Contents table seen where
  entries := h
  discover_again _ ht := h.discover_eq_self ht
  nodup_implementing _ := h.nodup_types.filter _
  mem_implementing_iff bounds e := by
    rw [implementing, List.mem_filter, h.mem_types_iff, Ty.satisfies_iff]
    refine and_congr_right fun he => ?_
    simp only [(h e.key).mem_traits_iff e he]

end TypeTable

namespace Registry

def mentionedTypes (r : Registry) : Set Ty :=
  {t | ∃ c ∈ r.callables, c.parent = some t ∨ (∃ p ∈ c.params, p.ty = t) ∨ c.returnType = some t}

theorem table_withTable (discovered : List Callable) (table : TypeTable) (seed : UInt64) :
    (withTable discovered table seed).table = table.discoverAll
      ((withTable discovered table seed).callables.flatMap Callable.signatureTypes) := by
  simp only [withTable]

theorem holds_withTable {table : TypeTable} {seen : Set Ty}
    (h : table.Holds (TypeTable.reached seen)) (discovered : List Callable) (seed : UInt64) :
    (withTable discovered table seed).table.Holds
      (TypeTable.reached (seen ∪ (withTable discovered table seed).mentionedTypes)) := by
  have hset : (withTable discovered table seed).mentionedTypes =
      {t | t ∈ (withTable discovered table seed).callables.flatMap Callable.signatureTypes} := by
    ext t
    simp [mentionedTypes, Callable.signatureTypes, eq_comm]
  rw [hset, table_withTable]
  exact h.discoverAll _

end Registry

namespace TypeTable

/-- A table holds what is reached in the types that were discovered, and so does the table of a
registry, in which the signatures of its working list are discovered. -/
theorem contents_exact {table : TypeTable} {seen : Set Ty} (h : Discovered table seen) :
    Contents table seen ∧
      (∀ discovered seed,
        Contents (Registry.withTable discovered table seed).table
          (seen ∪ (Registry.withTable discovered table seed).mentionedTypes)) ∧
      ∀ discovered seed,
        Contents (Registry.ofCallables discovered seed).table
          ({t | t ∈ Builtin.seedTypes} ∪
            (Registry.ofCallables discovered seed).mentionedTypes) := by
  refine ⟨h.holds.contents, fun discovered seed => ?_, fun discovered seed => ?_⟩
  · exact (Registry.holds_withTable h.holds discovered seed).contents
  · exact (Registry.holds_withTable Discovered.seeded.holds discovered seed).contents

def reading (traits : List String) : Ty := .adt .struct "Reading" [] (.ofList traits)

def sightedReadings : List Ty :=
  [.ref (.tuple [reading [TraitPath.debug], .fn [reading [TraitPath.copy]] none]) false,
    .slice (reading [TraitPath.clone])]

def readings : TypeTable := Builtin.seededTable.discoverAll sightedReadings

theorem contents_readings :
    Discovered readings ({t | t ∈ Builtin.seedTypes} ∪ {t | t ∈ sightedReadings}) ∧
      Contents readings ({t | t ∈ Builtin.seedTypes} ∪ {t | t ∈ sightedReadings}) ∧
      reading [TraitPath.debug, TraitPath.clone] ∈
        readings.implementing [TraitPath.debug, TraitPath.clone, TraitPath.sized] ∧
      readings.implementing [TraitPath.copy] = [] := by
  have h := Discovered.seeded.discoverAll sightedReadings
  have hmerged : reading [TraitPath.debug, TraitPath.clone] ∈
      readings.implementing [TraitPath.debug, TraitPath.clone, TraitPath.sized] := by
    decide +kernel
  have hunmet : readings.implementing [TraitPath.copy] = [] := by decide +kernel
  exact ⟨h, (contents_exact h).1, hmerged, hunmet⟩

end TypeTable
end UnitTestGen
