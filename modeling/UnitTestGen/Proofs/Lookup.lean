import Std.Data.ExtTreeMap

/-! Values under keys, in a map and in the list of its pairs. A map made from a list has under each
key what the list has there last. -/

namespace UnitTestGen

section Lookup

variable {α β : Type} [Ord α] [Std.TransOrd α] [Std.LawfulEqOrd α] [BEq α] [LawfulBEq α]

theorem find?_toList (t : Std.ExtTreeMap α β) (k : α) :
    (t.toList.find? (·.1 == k)).map (·.2) = t[k]? := by
  have hkey : (fun p : α × β => p.1 == k) = fun p => compare p.1 k == .eq := by
    funext p
    rw [Bool.eq_iff_iff, beq_iff_eq, beq_iff_eq, Std.compare_eq_iff_eq]
  refine Option.ext fun b => ?_
  simp only [hkey, Option.map_eq_some_iff, Prod.exists, exists_eq_right,
    Std.ExtTreeMap.find?_toList_eq_some_iff_getKey?_eq_some_and_getElem?_eq_some]
  constructor
  · rintro ⟨_, _, hb⟩
    exact hb
  · intro hb
    have hk : k ∈ t := Std.ExtTreeMap.mem_iff_isSome_getElem?.2 (by simp [hb])
    exact ⟨k, Std.ExtTreeMap.getKey?_eq_some hk, hb⟩

theorem getElem?_ofList (ps : List (α × β)) (k : α) :
    (Std.ExtTreeMap.ofList ps)[k]? = (ps.reverse.find? (·.1 == k)).map (·.2) := by
  rw [Std.ExtTreeMap.ofList_eq_insertMany_empty, Std.ExtTreeMap.getElem?_insertMany_list,
    Std.ExtTreeMap.getElem?_empty, Option.or_none, List.findSomeRev?_eq_findSome?_reverse]
  induction ps.reverse with
  | nil => rfl
  | cons p ps ih =>
    have hkey : compare p.1 k = .eq ↔ p.1 = k := Std.compare_eq_iff_eq
    simp only [List.findSome?_cons, List.find?_cons, ih]
    by_cases hp : p.1 = k
    · rw [if_pos (hkey.2 hp), beq_iff_eq.2 hp]
      rfl
    · rw [if_neg (mt hkey.1 hp), beq_false_of_ne hp]

end Lookup
end UnitTestGen
