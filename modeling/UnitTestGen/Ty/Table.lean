import UnitTestGen.Ty.Key
import UnitTestGen.Ty.Traits
import Std.Data.ExtTreeMap

/-! The table of the named types met so far. An entry stands under the key of its type; sightings of
one type merge the traits recorded at the top of it. -/

namespace UnitTestGen

abbrev TypeTable := Std.ExtTreeMap Ty Ty

namespace Ty

def isTabled : Ty → Bool
  | adt _ _ _ _ | traitObj _ _ | fn _ _ => true
  | _ => false

mutual

/-- The tabled types reached through references, tuples, arrays and slices, in order. -/
def tabledParts : Ty → List Ty
  | prim _ | generic _ _ => []
  | tuple ts => tabledPartsAll ts
  | array t _ => t.tabledParts
  | slice t => t.tabledParts
  | ref t _ => t.tabledParts
  | adt k n gs tr => [adt k n gs tr]
  | traitObj n b => [traitObj n b]
  | fn ps r => [fn ps r]

def tabledPartsAll : List Ty → List Ty
  | [] => []
  | t :: ts => t.tabledParts ++ tabledPartsAll ts

end

theorem tabledPartsAll_eq_flatMap (ts : List Ty) : tabledPartsAll ts = ts.flatMap tabledParts := by
  induction ts with
  | nil => rfl
  | cons t ts ih => simp [tabledPartsAll, ih]

/-- The first sighting with the traits of the second added if both are structs or enums. -/
def mergeTraits : Ty → Ty → Ty
  | adt k n gs tr, adt _ _ _ tr' => adt k n gs (tr ∪ tr')
  | t, _ => t

end Ty

namespace TypeTable

def empty : TypeTable := ∅

def enter (table : TypeTable) (t : Ty) : TypeTable :=
  table.alter t.key fun
    | none => some t
    | some kept => some (kept.mergeTraits t)

def discover (table : TypeTable) (t : Ty) : TypeTable := t.tabledParts.foldl enter table

def discoverAll (table : TypeTable) (ts : List Ty) : TypeTable := ts.foldl discover table

def find? (table : TypeTable) (t : Ty) : Option Ty := table[t.key]?

def has (table : TypeTable) (t : Ty) : Bool := table.contains t.key

def types (table : TypeTable) : List Ty := table.toList.map (·.2)

/-- The entries whose traits include every bound but that of having a size. -/
def implementing (table : TypeTable) (bounds : List String) : List Ty :=
  table.types.filter (·.satisfies bounds)

theorem getElem?_enter (table : TypeTable) (t k : Ty) :
    (table.enter t)[k]? =
      if t.key = k then some (match table[t.key]? with
        | none => t
        | some kept => kept.mergeTraits t)
      else table[k]? := by
  simp only [enter, Std.ExtTreeMap.getElem?_alter, Std.compare_eq_iff_eq]
  split
  · cases table[t.key]? <;> rfl
  · rfl

end TypeTable
end UnitTestGen
