import UnitTestGen.Json.Basic
import Std.Data.ExtTreeMap

/-! The plain value of a JSON text: of repeated keys the last one counts, keys are in order, numbers
are what they stand for, and nesting is bounded. -/

namespace UnitTestGen.Json

def maxDepth : Nat := 127

def Numeral.Value.numeral : Numeral.Value → Numeral
  | .integer n => .integer (n < 0) n.natAbs
  | .float x => .fraction x

/-- The value with members sorted by key and without repeats, if it nests at most `depth` levels and
all its parts have values. -/
def canonical : Nat → Json → Option Json
  | _, .null => some .null
  | _, .bool b => some (.bool b)
  | _, .number n => n.value.map fun v => .number v.numeral
  | _, .str s => some (.str s)
  | 0, .arr _ => none
  | depth + 1, .arr elems => (elems.mapM (canonical depth)).map .arr
  | 0, .obj _ => none
  | depth + 1, .obj members => do
    let ms ← members.mapM fun (k, v) => (canonical depth v).map (k, ·)
    some (.obj (Std.ExtTreeMap.ofList ms).toList)
  | _, .valueless => none

def index? (token : List Char) : Option Nat :=
  if token.head? == some '0' && token != ['0'] then none else Text.readDigits token

def part? (j : Json) (token : String) : Option Json :=
  match j with
  | .obj members => (members.find? (·.1 == token)).map (·.2)
  | .arr elems => (index? token.toList).bind (elems[·]?)
  | _ => none

def pointer? (path : List String) (j : Json) : Option Json := path.foldlM part? j

end UnitTestGen.Json
