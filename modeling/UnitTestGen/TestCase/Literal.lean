import UnitTestGen.Binary64.Printer
import UnitTestGen.Text.Quoted
import UnitTestGen.Ty.Basic

/-! Literals of primitive types and their source text, which names the type where digits alone would
not settle it. -/

namespace UnitTestGen

inductive Literal where
  | bool (value : Bool)
  | char (value : Char)
  | int (value : Int) (prim : Prim)
  | uint (value : Nat) (prim : Prim)
  | float (value : Binary64) (prim : Prim)
  | str (value : String)
  deriving DecidableEq

namespace Literal

def ty : Literal → Ty
  | bool _ => .prim .bool
  | char _ => .prim .char
  | int _ p | uint _ p | float _ p => .prim p
  | str _ => .ref (.prim .str) false

def text : Literal → String
  | bool b => if b then "true" else "false"
  | char c => String.ofList (Text.quotedChar c)
  | int v p => toString v ++ p.name
  | uint v p => toString v ++ p.name
  | float v p =>
    if v.isNaN then p.name ++ "::NAN"
    else if v.isInfinite then p.name ++ (if v.isNegative then "::NEG_INFINITY" else "::INFINITY")
    else v.text .literal ++ p.name
  | str s => String.ofList (Text.quoted s.toList)

/-- Equality in which floating-point numbers are compared as numbers. -/
def agrees : Literal → Literal → Bool
  | float v p, float w q => v.numEq w && p == q
  | a, b => a == b

end Literal
end UnitTestGen
