import UnitTestGen.Json.Canonical
import UnitTestGen.Json.Decode
import UnitTestGen.Ty.Basic
import UnitTestGen.Ty.Traits

/-! Types as JSON. A type is a choice by form; the parts that may be empty may be left out when
read and are always written. -/

namespace UnitTestGen

namespace TraitSet

def toJson (traits : TraitSet) : Json := .ofStrings traits.toList

def ofJson (depth : Nat) (j : Json) : Option TraitSet :=
  (Json.asList depth (fun _ => Json.asString) j).map ofList

end TraitSet

namespace Prim

def toJson (p : Prim) : Json := .str p.name

def ofJson (depth : Nat) (j : Json) : Option Prim := (Json.tag? depth j).bind ofName?

end Prim

namespace Nominal

def tag : Nominal → String
  | struct => "struct"
  | enum => "enum"

end Nominal

namespace Ty

mutual

def toJson : Ty → Json
  | prim p => .obj [("prim", p.toJson)]
  | adt k n gs tr => .obj [(k.tag, .obj [("name", .str n), ("generics", .arr (toJsonAll gs)),
      ("traits", TraitSet.toJson tr)])]
  | tuple ts => .obj [("tuple", .arr (toJsonAll ts))]
  | array t n => .obj [("array", .obj [("elem", t.toJson), ("len", .ofNat n.toNat)])]
  | slice t => .obj [("slice", t.toJson)]
  | ref t m => .obj [("ref", .obj [("inner", t.toJson), ("mutable", .bool m)])]
  | generic n b => .obj [("generic", .obj [("name", .str n), ("bounds", TraitSet.toJson b)])]
  | traitObj n b => .obj [("trait_obj", .obj [("name", .str n), ("bounds", TraitSet.toJson b)])]
  | fn ps none => .obj [("fn", .obj [("params", .arr (toJsonAll ps)), ("ret", .null)])]
  | fn ps (some r) => .obj [("fn", .obj [("params", .arr (toJsonAll ps)), ("ret", r.toJson)])]

def toJsonAll : List Ty → List Json
  | [] => []
  | t :: ts => t.toJson :: toJsonAll ts

end

theorem toJsonAll_eq_map (ts : List Ty) : toJsonAll ts = ts.map toJson := by
  induction ts with
  | nil => rfl
  | cons t ts ih => simp [toJsonAll, ih]

open Json in
def ofJson : Nat → Json → Option Ty
  | depth + 1, .obj [(tag, payload)] =>
    match tag, depth with
    | "prim", _ => (Prim.ofJson depth payload).map prim
    | "struct", depth + 1 => do
      let field ← fields? ["name", "generics", "traits"] payload
      let name ← required asString (field "name")
      let generics ← withDefault [] (many depth) (field "generics")
      let traits ← withDefault ∅ (TraitSet.ofJson depth) (field "traits")
      some (adt .struct name generics traits)
    | "enum", depth + 1 => do
      let field ← fields? ["name", "generics", "traits"] payload
      let name ← required asString (field "name")
      let generics ← withDefault [] (many depth) (field "generics")
      let traits ← withDefault ∅ (TraitSet.ofJson depth) (field "traits")
      some (adt .enum name generics traits)
    | "tuple", depth => (many depth payload).map tuple
    | "array", depth + 1 => do
      let field ← fields? ["elem", "len"] payload
      let elem ← required (ofJson depth) (field "elem")
      let len ← required asUInt64 (field "len")
      some (array elem len)
    | "slice", depth => (ofJson depth payload).map slice
    | "ref", depth + 1 => do
      let field ← fields? ["inner", "mutable"] payload
      let inner ← required (ofJson depth) (field "inner")
      let mutable ← required asBool (field "mutable")
      some (ref inner mutable)
    | "generic", depth + 1 => do
      let field ← fields? ["name", "bounds"] payload
      let name ← required asString (field "name")
      let bounds ← withDefault ∅ (TraitSet.ofJson depth) (field "bounds")
      some (generic name bounds)
    | "trait_obj", depth + 1 => do
      let field ← fields? ["name", "bounds"] payload
      let name ← required asString (field "name")
      let bounds ← withDefault ∅ (TraitSet.ofJson depth) (field "bounds")
      some (traitObj name bounds)
    | "fn", depth + 1 => do
      let field ← fields? ["params", "ret"] payload
      let params ← withDefault [] (many depth) (field "params")
      let ret ← withDefault none (nullable (ofJson depth)) (field "ret")
      some (fn params ret)
    | _, _ => none
  | _, _ => none
where
  many : Nat → Json → Option (List Ty)
    | depth + 1, .arr elems => elems.mapM (ofJson depth)
    | _, _ => none

end Ty
end UnitTestGen
