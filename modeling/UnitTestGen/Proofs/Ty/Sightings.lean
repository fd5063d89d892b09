import UnitTestGen.Ty.Table

/-! The entry a table holds under a key after types have been discovered. It has the form of the
first sighting under that key, unless the table held an entry before, with the traits of all of them
at the top: merging never reaches the traits further down, so these stay as first seen. -/

namespace UnitTestGen

namespace Ty

def bare : Ty → Ty
  | adt k n gs _ => adt k n gs ∅
  | t => t

theorem bare_bare (t : Ty) : t.bare.bare = t.bare := by
  cases t <;> rfl

theorem bare_mergeTraits (t u : Ty) : (t.mergeTraits u).bare = t.bare := by
  unfold mergeTraits
  split <;> rfl

theorem mergeTraits_bare_self (t : Ty) : t.bare.mergeTraits t = t := by
  cases t with
  | adt k n gs tr =>
    have htr : ∅ ∪ tr = tr := Std.ExtTreeSet.ext_mem fun p => by
      rw [Std.ExtTreeSet.mem_union_iff]
      exact or_iff_right Std.ExtTreeSet.not_mem_empty
    exact congrArg (adt k n gs) htr
  | _ => rfl

theorem mergeTraits_right_comm (t u v : Ty) :
    (t.mergeTraits u).mergeTraits v = (t.mergeTraits v).mergeTraits u := by
  cases t with
  | adt k n gs tr =>
    cases u with
    | adt _ _ _ tru =>
      cases v with
      | adt _ _ _ trv =>
        have htr : tr ∪ tru ∪ trv = tr ∪ trv ∪ tru := Std.ExtTreeSet.ext_mem fun p => by
          simp only [Std.ExtTreeSet.mem_union_iff]
          exact or_right_comm
        exact congrArg (adt k n gs) htr
      | _ => rfl
    | _ => cases v <;> rfl
  | _ => rfl

theorem bare_foldl_mergeTraits (ts : List Ty) (t : Ty) :
    (ts.foldl mergeTraits t).bare = t.bare := by
  induction ts generalizing t with
  | nil => rfl
  | cons u ts ih => exact (ih _).trans (bare_mergeTraits t u)

theorem foldl_mergeTraits_perm {ts us : List Ty} (h : ts.Perm us) (t : Ty) :
    ts.foldl mergeTraits t = us.foldl mergeTraits t :=
  h.foldl_eq' (fun u _ v _ t => mergeTraits_right_comm t u v) t

def firstUnder (t k : Ty) : Option Ty := t.tabledParts.find? (·.key = k)

end Ty

namespace TypeTable

def sightings (k : Ty) (ts : List Ty) : List Ty := (ts.flatMap Ty.tabledParts).filter (·.key = k)

theorem head?_sightings (k : Ty) (ts : List Ty) :
    (sightings k ts).head? = ts.findSome? (·.firstUnder k) := by
  unfold sightings
  rw [List.head?_filter, List.find?_flatMap]
  rfl

theorem sightings_perm (k : Ty) {ts us : List Ty} (h : us.Perm ts) :
    (sightings k us).Perm (sightings k ts) :=
  (h.flatMap_right Ty.tabledParts).filter _

theorem discoverAll_eq_foldl (table : TypeTable) (ts : List Ty) :
    table.discoverAll ts = (ts.flatMap Ty.tabledParts).foldl enter table := by
  unfold discoverAll
  rw [List.foldl_flatMap]
  rfl

def sighted (entry : Option Ty) (t : Ty) : Option Ty := some (entry.elim t (·.mergeTraits t))

theorem getElem?_foldl_enter (table : TypeTable) (ts : List Ty) (k : Ty) :
    (ts.foldl enter table)[k]? = (ts.filter (·.key = k)).foldl sighted table[k]? := by
  induction ts generalizing table with
  | nil => rfl
  | cons t ts ih =>
    rw [List.foldl_cons, ih, getElem?_enter]
    by_cases h : t.key = k
    · subst h
      rw [List.filter_cons_of_pos (by simp), List.foldl_cons, if_pos rfl]
      cases table[t.key]? <;> rfl
    · rw [List.filter_cons_of_neg (by simpa using h), if_neg h]

theorem foldl_sighted_some (ts : List Ty) (kept : Ty) :
    ts.foldl sighted (some kept) = some (ts.foldl Ty.mergeTraits kept) := by
  induction ts generalizing kept with
  | nil => rfl
  | cons t ts ih => exact ih _

theorem foldl_sighted_none (ts : List Ty) :
    ts.foldl sighted none = ts.head?.map fun t => ts.foldl Ty.mergeTraits t.bare := by
  cases ts with
  | nil => rfl
  | cons t ts =>
    -- the first sighting is entered as it is, which is what merging it into its bare form gives
    change ts.foldl sighted (some t) = some (ts.foldl Ty.mergeTraits (t.bare.mergeTraits t))
    rw [foldl_sighted_some, Ty.mergeTraits_bare_self]

theorem getElem?_discoverAll (table : TypeTable) (ts : List Ty) (k : Ty) :
    (table.discoverAll ts)[k]? = (sightings k ts).foldl sighted table[k]? := by
  rw [discoverAll_eq_foldl, getElem?_foldl_enter]
  rfl

end TypeTable
end UnitTestGen
