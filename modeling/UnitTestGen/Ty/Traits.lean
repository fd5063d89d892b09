import UnitTestGen.Ty.Basic

/-! The traits a type is known to satisfy, and which types may stand for a bounded generic
parameter. Every type at hand has a size, so that bound never excludes one. -/

namespace UnitTestGen

namespace TraitPath

def sized : String := "std::marker::Sized"
def copy : String := "std::marker::Copy"
def clone : String := "std::clone::Clone"
def debug : String := "std::fmt::Debug"
def display : String := "std::fmt::Display"
def default : String := "std::default::Default"
def partialEq : String := "std::cmp::PartialEq"
def eq : String := "std::cmp::Eq"
def partialOrd : String := "std::cmp::PartialOrd"
def ord : String := "std::cmp::Ord"
def hash : String := "std::hash::Hash"
def hasher : String := "std::hash::Hasher"
def rngCore : String := "rand_core::RngCore"

end TraitPath

namespace TraitSet

def ofList (paths : List String) : TraitSet := Std.ExtTreeSet.ofList paths

@[simp] theorem mem_ofList (paths : List String) (p : String) : p ∈ ofList paths ↔ p ∈ paths := by
  simp [ofList]

end TraitSet

namespace Prim

open TraitPath in
/-- The traits of a primitive: a string slice has no size and is not copied, and floating-point
numbers have no total equality. -/
def traits : Prim → TraitSet
  | str => TraitSet.ofList [debug, display, partialEq, eq, partialOrd, ord, hash]
  | f32 | f64 =>
    TraitSet.ofList [sized, copy, clone, debug, display, TraitPath.default, partialEq, partialOrd]
  | _ =>
    TraitSet.ofList [sized, copy, clone, debug, display, TraitPath.default, partialEq, eq,
      partialOrd, ord, hash]

end Prim

namespace Ty

/-- The traits the type is known to satisfy. A shared reference can be copied whatever it points at
and a mutable one cannot; tuples, arrays, slices and functions are not known to satisfy any. -/
def traits : Ty → TraitSet
  | prim p => p.traits
  | adt _ _ _ tr => tr
  | generic _ b => b
  | traitObj _ b => b
  | ref t true => ((t.traits.erase TraitPath.copy).erase TraitPath.clone).insert TraitPath.sized
  | ref t false => ((t.traits.insert TraitPath.copy).insert TraitPath.clone).insert TraitPath.sized
  | tuple _ | array _ _ | slice _ | fn _ _ => ∅

def implements (t : Ty) (path : String) : Bool := t.traits.contains path

def isCopy (t : Ty) : Bool := t.implements TraitPath.copy

/-- Whether the type satisfies every bound but that of having a size. -/
def satisfies (t : Ty) (bounds : List String) : Bool :=
  bounds.all fun b => b == TraitPath.sized || t.implements b

theorem satisfies_iff {t : Ty} {bounds : List String} :
    t.satisfies bounds ↔ ∀ b ∈ bounds, b ≠ TraitPath.sized → b ∈ t.traits := by
  simp [satisfies, implements, Decidable.or_iff_not_imp_left]

end Ty

namespace TraitSet

def admits (bounds : TraitSet) (t : Ty) : Bool := t.satisfies bounds.toList

theorem admits_iff {bounds : TraitSet} {t : Ty} :
    bounds.admits t ↔ ∀ b ∈ bounds, b ≠ TraitPath.sized → b ∈ t.traits := by
  simp [admits, Ty.satisfies_iff]

end TraitSet
end UnitTestGen
