import UnitTestGen.Ty.Order

/-! The identity of a type apart from the traits recorded on structs and enums. -/

namespace UnitTestGen.Ty

mutual

def key : Ty → Ty
  | prim p => prim p
  | adt k n gs _ => adt k n (keyAll gs) ∅
  | tuple ts => tuple (keyAll ts)
  | array t n => array t.key n
  | slice t => slice t.key
  | ref t m => ref t.key m
  | generic n b => generic n b
  | traitObj n b => traitObj n b
  | fn ps none => fn (keyAll ps) none
  | fn ps (some r) => fn (keyAll ps) (some r.key)

def keyAll : List Ty → List Ty
  | [] => []
  | t :: ts => t.key :: keyAll ts

end

def sameStructure (t u : Ty) : Bool := t.key == u.key

theorem keyAll_eq_map (ts : List Ty) : keyAll ts = ts.map key := by
  induction ts with
  | nil => rfl
  | cons t ts ih => simp [keyAll, ih]

end UnitTestGen.Ty
