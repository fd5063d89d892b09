import Std.Data.ExtTreeSet

/-! Types of the program under test, with the traits that structs, enums, generic parameters and
trait objects are known to satisfy. The questions that need one look at the outer form are answered
here, and induction over a type is stated with the parts of a form given by membership. -/

namespace UnitTestGen

abbrev TraitSet := Std.ExtTreeSet String

inductive Prim where
  | bool | char | str
  | i8 | i16 | i32 | i64 | i128 | isize
  | u8 | u16 | u32 | u64 | u128 | usize
  | f32 | f64
  deriving DecidableEq

namespace Prim

def all : List Prim :=
  [bool, char, str, i8, i16, i32, i64, i128, isize, u8, u16, u32, u64, u128, usize, f32, f64]

def name : Prim → String
  | bool => "bool"
  | char => "char"
  | str => "str"
  | i8 => "i8"
  | i16 => "i16"
  | i32 => "i32"
  | i64 => "i64"
  | i128 => "i128"
  | isize => "isize"
  | u8 => "u8"
  | u16 => "u16"
  | u32 => "u32"
  | u64 => "u64"
  | u128 => "u128"
  | usize => "usize"
  | f32 => "f32"
  | f64 => "f64"

def ofName? (name : String) : Option Prim := all.find? (·.name == name)

theorem ofName?_name (p : Prim) : ofName? p.name = some p := by cases p <;> decide

end Prim

inductive Nominal where
  | struct
  | enum
  deriving DecidableEq

inductive Ty where
  | prim (p : Prim)
  | adt (kind : Nominal) (name : String) (generics : List Ty) (traits : TraitSet)
  /-- The empty tuple is the unit type. -/
  | tuple (elems : List Ty)
  | array (elem : Ty) (len : UInt64)
  | slice (elem : Ty)
  | ref (inner : Ty) (mutable : Bool)
  | generic (name : String) (bounds : TraitSet)
  | traitObj (name : String) (bounds : TraitSet)
  | fn (params : List Ty) (ret : Option Ty)

namespace Ty

instance : Inhabited Ty := ⟨.tuple []⟩

theorem induction {P : Ty → Prop}
    (prim : ∀ p, P (.prim p))
    (adt : ∀ kind name generics traits, (∀ t ∈ generics, P t) → P (.adt kind name generics traits))
    (tuple : ∀ elems, (∀ t ∈ elems, P t) → P (.tuple elems))
    (array : ∀ elem len, P elem → P (.array elem len))
    (slice : ∀ elem, P elem → P (.slice elem))
    (ref : ∀ inner mutable, P inner → P (.ref inner mutable))
    (generic : ∀ name bounds, P (.generic name bounds))
    (traitObj : ∀ name bounds, P (.traitObj name bounds))
    (fn : ∀ params ret, (∀ t ∈ params, P t) → (∀ t ∈ ret, P t) → P (.fn params ret))
    (t : Ty) : P t := by
  refine Ty.rec (motive_1 := P) (motive_2 := fun ts => ∀ t ∈ ts, P t)
    (motive_3 := fun r => ∀ t ∈ r, P t) prim adt tuple array slice ref generic traitObj fn
    (by simp) ?_ (by simp) ?_ t
  · intro t ts ht hts u hu
    rcases List.mem_cons.1 hu with rfl | hu
    · exact ht
    · exact hts u hu
  · intro t ht u hu
    cases hu
    exact ht

def kind : Ty → String
  | prim _ => "primitive"
  | adt .struct _ _ _ => "struct"
  | adt .enum _ _ _ => "enum"
  | tuple _ => "tuple"
  | array _ _ => "array"
  | slice _ => "slice"
  | ref _ _ => "reference"
  | generic _ _ => "generic"
  | traitObj _ _ => "trait object"
  | fn _ _ => "function"

def name : Ty → Option String
  | prim p => some p.name
  | adt _ n _ _ => some n
  | generic n _ => some n
  | traitObj n _ => some n
  | tuple _ | array _ _ | slice _ | ref _ _ | fn _ _ => none

/-- Generic arguments; arrays, slices and references have those of their element, and a tuple its
elements. -/
def generics : Ty → List Ty
  | adt _ _ gs _ => gs
  | tuple ts => ts
  | array t _ => t.generics
  | slice t => t.generics
  | ref t _ => t.generics
  | prim _ | generic _ _ | traitObj _ _ | fn _ _ => []

def children : Ty → List Ty
  | adt _ _ gs _ => gs
  | tuple ts => ts
  | array t _ => [t]
  | slice t => [t]
  | ref t _ => [t]
  | prim _ | generic _ _ | traitObj _ _ | fn _ _ => []

def isPrim : Ty → Bool
  | prim _ => true
  | _ => false

def isRef : Ty → Bool
  | ref _ _ => true
  | _ => false

def isMutRef : Ty → Bool
  | ref _ m => m
  | _ => false

def isUnit : Ty → Bool
  | tuple [] => true
  | _ => false

def isGeneric : Ty → Bool
  | generic _ _ => true
  | _ => false

def referent : Ty → Option Ty
  | ref t _ => some t
  | _ => none

def refDepth : Ty → Nat
  | ref t _ => t.refDepth + 1
  | _ => 0

mutual

def hasGenericParams : Ty → Bool
  | prim _ => false
  | adt _ _ gs _ => anyGenericParams gs
  | tuple ts => anyGenericParams ts
  | array t _ => t.hasGenericParams
  | slice t => t.hasGenericParams
  | ref t _ => t.hasGenericParams
  | generic _ _ => true
  | traitObj _ _ => false
  | fn ps none => anyGenericParams ps
  | fn ps (some r) => anyGenericParams ps || r.hasGenericParams

def anyGenericParams : List Ty → Bool
  | [] => false
  | t :: ts => t.hasGenericParams || anyGenericParams ts

end

theorem anyGenericParams_eq_any (ts : List Ty) :
    anyGenericParams ts = ts.any hasGenericParams := by
  induction ts with
  | nil => rfl
  | cons t ts ih => simp [anyGenericParams, ih]

def struct (name : String) (generics : List Ty) : Ty := .adt .struct name generics ∅

def enum (name : String) (generics : List Ty) : Ty := .adt .enum name generics ∅

def unit : Ty := .tuple []

end Ty
end UnitTestGen
