import UnitTestGen.Json.Basic

/-! Parts of typed readers. A record is an object whose known members occur at most once, others
being passed over, or an array of the first fields in order; a choice is an object of one member
or, without payload, a string. What is passed over need not have a value. -/

namespace UnitTestGen.Json

def fields? (names : List String) : Json → Option (String → Option Json)
  | .obj members =>
    if names.all fun name => members.countP (·.1 == name) ≤ 1 then
      some fun name => (members.find? (·.1 == name)).map (·.2)
    else none
  | .arr elems =>
    if elems.length ≤ names.length then some fun name => elems[names.idxOf name]? else none
  | _ => none

def choice? : Json → Option (String × Option Json)
  | .str tag => some (tag, none)
  | .obj [(tag, payload)] => some (tag, some payload)
  | _ => none

def tag? : Nat → Json → Option String
  | _, .str tag => some tag
  | _ + 1, .obj [(tag, .null)] => some tag
  | _, _ => none

def required {α : Type} (read : Json → Option α) (field : Option Json) : Option α :=
  field.bind read

def withDefault {α : Type} (default : α) (read : Json → Option α) : Option Json → Option α
  | none => some default
  | some j => read j

def nullable {α : Type} (read : Json → Option α) : Json → Option (Option α)
  | .null => some none
  | j => (read j).map some

def asString : Json → Option String
  | .str s => some s
  | _ => none

def asBool : Json → Option Bool
  | .bool b => some b
  | _ => none

def asNat (limit : Nat) : Json → Option Nat
  | .number n =>
    match n.value with
    | some (.integer i) => if 0 ≤ i ∧ i < limit then some i.toNat else none
    | _ => none
  | _ => none

def asUInt64 (j : Json) : Option UInt64 := (asNat UInt64.size j).map UInt64.ofNat

def asFloat : Json → Option Binary64
  | .number n => n.value.map fun
    | .integer i => (Binary64.ofNat i.natAbs).withSign (i < 0)
    | .float x => x
  | _ => none

def asList {α : Type} : Nat → (Nat → Json → Option α) → Json → Option (List α)
  | depth + 1, read, .arr elems => elems.mapM (read depth)
  | _, _, _ => none

end UnitTestGen.Json
