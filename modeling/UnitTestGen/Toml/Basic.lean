import UnitTestGen.Binary64.Basic

/-! TOML documents. A table remembers how it came to be, since that decides whether later lines
may add to it: a table with its own header only grows by headers and under that header, one that a
longer header implied may still get its own, one made by a dotted key grows by dotted keys, and an
inline table is closed. -/

namespace UnitTestGen

namespace Toml

inductive Origin where
  | header
  | implied
  | dotted
  | inline
  deriving DecidableEq

end Toml

inductive Toml where
  | string (s : String)
  | integer (n : Int)
  | float (x : Binary64)
  | boolean (b : Bool)
  /-- A date or a time, of which only the form is checked. -/
  | moment
  | array (elems : List Toml)
  | table (origin : Toml.Origin) (members : List (String × Toml))
  /-- The tables of a repeated header, the last one first. -/
  | tables (elems : List Toml)

namespace Toml

abbrev Members := List (String × Toml)

namespace Members

def lookup (members : Members) (key : String) : Option Toml :=
  (List.find? (·.1 == key) members).map (·.2)

def replace (members : Members) (key : String) (value : Toml) : Members :=
  members.map fun (k, v) => (k, if k == key then value else v)

/-- Changes the members of the table that a path leads to, and makes the tables that are missing
on the way. A dotted key does not pass a table that has a header of its own, and nothing passes an
inline table or a value that is none. -/
def descend (byDots : Bool) (change : Origin → Members → Option Members) :
    List String → Origin → Members → Option Members
  | [], origin, members => change origin members
  | key :: path, _, members =>
    match members.lookup key with
    | none => do
      let origin : Origin := if byDots then .dotted else .implied
      let inner ← descend byDots change path origin []
      some (members ++ [(key, .table origin inner)])
    | some (.table origin inner) =>
      if origin = .inline ∨ (byDots ∧ origin = .header) then none
      else do
        let inner ← descend byDots change path origin inner
        some (members.replace key (.table origin inner))
    | some (.tables (.table origin inner :: earlier)) => do
      let inner ← descend byDots change path origin inner
      some (members.replace key (.tables (.table origin inner :: earlier)))
    | some _ => none

/-- Adds a value under a key, with the part of a dotted key before it. The table it is added to was
made by dotted keys exactly if there is such a part, and does not hold the key. -/
def define (path : List String) (key : String) (value : Toml) :
    Origin → Members → Option Members :=
  descend true (fun origin members =>
    if (origin = .dotted ↔ path = []) ∨ (members.lookup key).isSome then none
    else some (members ++ [(key, value)])) path

def openTable (path : List String) (key : String) : Origin → Members → Option Members :=
  descend false (fun _ members =>
    match members.lookup key with
    | none => some (members ++ [(key, .table .header [])])
    | some (.table .implied inner) => some (members.replace key (.table .header inner))
    | some _ => none) path

def openElement (path : List String) (key : String) : Origin → Members → Option Members :=
  descend false (fun _ members =>
    match members.lookup key with
    | none => some (members ++ [(key, .tables [.table .header []])])
    | some (.tables elems) => some (members.replace key (.tables (.table .header [] :: elems)))
    | some _ => none) path

end Members

/-- The fields of a record by name: the members of a table, or the elements of an array in the order
of the names. A moment counts as a record, and has none of the fields. -/
def fields? (names : List String) : Toml → Option (String → Option Toml)
  | .table _ members => some fun name => Members.lookup members name
  | .moment => some fun _ => none
  | .array elems => some fun name => elems[names.idxOf name]?
  | .tables elems => some fun name => elems.reverse[names.idxOf name]?
  | _ => none

def asString : Toml → Option String
  | .string s => some s
  | _ => none

def asNat (limit : Nat) : Toml → Option Nat
  | .integer n => if 0 ≤ n ∧ n < limit then some n.toNat else none
  | _ => none

end Toml
end UnitTestGen
