import UnitTestGen.Json.Reader
import UnitTestGen.TestCase.Literal
import UnitTestGen.Ty.Format

/-! Literals as JSON: a choice by kind, numbers paired with their primitive type. Integers may have
up to 128 bits. -/

namespace UnitTestGen.Literal

open Json

def toJson : Literal → Json
  | bool b => .obj [("bool", .bool b)]
  | char c => .obj [("char", .str c.toString)]
  | int v p => .obj [("int", .arr [.ofInt v, p.toJson])]
  | uint v p => .obj [("u_int", .arr [.ofNat v, p.toJson])]
  | float v p => .obj [("float", .arr [.ofFloat v, p.toJson])]
  | str s => .obj [("str", .str s)]

/-- The integer of a numeral of any length, with a sign for minus zero too, within 128 bits. -/
def asSigned : Json → Option Int
  | .number (.integer false m) => if m < 2 ^ 127 then some m else none
  | .number (.integer true m) => if m ≤ 2 ^ 127 then some (-m) else none
  | _ => none

def asUnsigned : Json → Option Nat
  | .number (.integer false m) => if m < 2 ^ 128 then some m else none
  | _ => none

def ofJson : Nat → Json → Option Literal
  | depth + 1, .obj [(tag, payload)] =>
    match tag, depth, payload with
    | "bool", _, j => (asBool j).map bool
    | "char", _, .str s =>
      match s.toList with
      | [c] => some (char c)
      | _ => none
    | "int", depth + 1, .arr [v, p] => do some (int (← asSigned v) (← Prim.ofJson depth p))
    | "u_int", depth + 1, .arr [v, p] => do some (uint (← asUnsigned v) (← Prim.ofJson depth p))
    | "float", depth + 1, .arr [v, p] => do some (float (← asFloat v) (← Prim.ofJson depth p))
    | "str", _, j => (asString j).map str
    | _, _, _ => none
  | _, _ => none

def ofText (text : String) : Option Literal := (Json.ofText text).bind (ofJson maxDepth)

end UnitTestGen.Literal
