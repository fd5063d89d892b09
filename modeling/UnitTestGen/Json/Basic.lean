import UnitTestGen.Binary64.Basic
import UnitTestGen.Text.Numeral

/-! JSON as read from a text: objects keep their members in the order and number in which they were
written, and a literal that is well-formed as text but denotes no value is kept as such. Whole and
fractional numerals stay apart; `Numeral.value` says what a numeral stands for. -/

namespace UnitTestGen

namespace Json

inductive Numeral where
  | integer (negative : Bool) (magnitude : Nat)
  | fraction (value : Binary64)
  deriving DecidableEq

end Json

inductive Json where
  | null
  | bool (value : Bool)
  | number (n : Json.Numeral)
  | str (s : String)
  | arr (elems : List Json)
  | obj (members : List (String × Json))
  /-- Text of the right form without a value: a string with an unpaired surrogate, an object with
  such a key, or a fraction that is too large. -/
  | valueless

namespace Json

inductive Numeral.Value where
  | integer (n : Int)
  | float (x : Binary64)
  deriving DecidableEq

/-- Adds digits to a significand as long as it stays below `2 ^ 64`; gives it with the numbers of
digits taken and left. -/
def absorb (significand : Nat) : List Char → Nat × Nat × Nat
  | [] => (significand, 0, 0)
  | c :: s =>
    let next := 10 * significand + Text.digitValue c
    if next < UInt64.size then
      let (result, taken, left) := absorb next s
      (result, taken + 1, left)
    else (significand, 0, s.length + 1)

def greatestPower : Nat := 308

def powerOfTen (n : Nat) : Binary64 := Binary64.ofNat (Nat.pow 10 n)

def divideByPower : Nat → Binary64 → Nat → Binary64
  | 0, x, _ => x
  | steps + 1, x, n =>
    if n ≤ greatestPower then x.divSize (powerOfTen n)
    else if x.units = 0 then x
    else divideByPower steps (x.divSize (powerOfTen greatestPower)) (n - greatestPower)

def scale (significand : Nat) (exponent : Int) : Option Binary64 :=
  let x := Binary64.ofNat significand
  if exponent < 0 then some (divideByPower 8 x (-exponent).toNat)
  else if x.units = 0 then some x
  else if greatestPower < exponent then none
  else
    let result := x.mulSize (powerOfTen exponent.toNat)
    if result.isInfinite then none else some result

def ofDigits (negative : Bool) (whole fraction : List Char) (exponent : Int) : Option Binary64 :=
  let (significand, _, dropped) := absorb 0 whole
  let (significand, taken, _) := absorb significand fraction
  (scale significand (dropped - taken + exponent)).map (·.withSign negative)

/-- An integer numeral is an integer if it fits 64 bits, signed or not; minus zero and all others
are binary64 numbers, and one that is too large stands for nothing. -/
def Numeral.value : Numeral → Option Numeral.Value
  | .integer false m =>
    if m < UInt64.size then some (.integer m)
    else (ofDigits false (Text.decimal m) [] 0).map .float
  | .integer true m =>
    if 0 < m ∧ m ≤ 2 ^ 63 then some (.integer (-m))
    else if m < UInt64.size then some (.float ((Binary64.ofNat m).withSign true))
    else (ofDigits true (Text.decimal m) [] 0).map .float
  | .fraction x => some (.float x)

def ofNat (n : Nat) : Json := .number (.integer false n)

def ofInt (n : Int) : Json := .number (.integer (n < 0) n.natAbs)

def ofFloat (x : Binary64) : Json := .number (.fraction x)

def ofOption {α : Type} (f : α → Json) : Option α → Json
  | none => .null
  | some a => f a

def ofStrings (xs : List String) : Json := .arr (xs.map .str)

end Json
end UnitTestGen
