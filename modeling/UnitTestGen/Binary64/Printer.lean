import UnitTestGen.Binary64.Basic
import UnitTestGen.Text.Numeral

/-! Decimal text of a number with the fewest digits that read back. For one digit, two digits and so
on, the two neighbours of the number on the decimal grid of that many digits are tried; the first
grid with a neighbour that reads back gives the digits, and of two such neighbours the nearer one.
How the digits are laid out is one record per use. -/

namespace UnitTestGen.Binary64

structure Decimal where
  digits : Nat
  exponent : Int
  deriving DecidableEq

inductive Tie where
  | up
  | even
  deriving DecidableEq

structure Layout where
  /-- The least and greatest place of the point, counted from the first digit, for which no exponent
  is written; always positional without bounds. -/
  positional : Option (Int × Int)
  /-- Whether a whole number written positionally ends in `.0`. -/
  keepPoint : Bool
  plusSign : Bool
  tie : Tie

def Layout.plain : Layout := ⟨none, false, false, .up⟩

/-- As in source code: an exponent below `1e-4` and from `1e16` on. -/
def Layout.literal : Layout := ⟨some (-3, 16), true, false, .up⟩

/-- As in JSON text: an exponent, always with its sign, below `1e-5` and from `1e16` on. -/
def Layout.json : Layout := ⟨some (-4, 16), true, true, .even⟩

def pointPlace (x : Binary64) : Int :=
  (Nat.toDigits 10 (x.units * 10 ^ 400 / 2 ^ 1074)).length - 400

def readsBack (x : Binary64) (d : Decimal) : Bool :=
  (ofDecimal false d.digits d.exponent).magnitude == x.magnitude

/-- The nearer of two neighbours among those that pass. The fraction `rest / den` is twice the
distance from the lower one in steps of the grid. -/
def nearer (tie : Tie) (passes : Decimal → Bool) (below above : Decimal) (rest den : Nat) :
    Option Decimal :=
  match passes below, passes above with
  | true, false => some below
  | false, true => some above
  | false, false => none
  | true, true =>
    if rest < den then some below
    else if den < rest then some above
    else match tie with
      | .up => some above
      | .even => some (if below.digits % 2 == 0 then below else above)

def onGrid (tie : Tie) (x : Binary64) (n : Nat) : Option Decimal :=
  let exponent := x.pointPlace - n
  let num := x.units * 10 ^ 400
  let den := 2 ^ 1074 * Nat.pow 10 (400 + exponent).toNat
  nearer tie x.readsBack ⟨num / den, exponent⟩ ⟨num / den + 1, exponent⟩ (2 * (num % den)) den

def exact (x : Binary64) : Decimal := ⟨x.units * 5 ^ 1074, -1074⟩

/-- A decimal with the fewest digits that reads back as the size of a finite number. -/
def shortest (tie : Tie) (x : Binary64) : Decimal :=
  ((List.range' 1 17).findSome? (x.onGrid tie)).getD x.exact

def stripZeros (digits : List Char) : List Char :=
  (digits.reverse.dropWhile (· == '0')).reverse

def positionalText (keepPoint : Bool) (digits : List Char) (place : Int) : List Char :=
  if place ≤ 0 then '0' :: '.' :: (List.replicate (-place).toNat '0' ++ digits)
  else
    let n := place.toNat
    if digits.length ≤ n then
      digits ++ List.replicate (n - digits.length) '0' ++ (if keepPoint then ['.', '0'] else [])
    else digits.take n ++ '.' :: digits.drop n

def exponentText (plusSign : Bool) (digits : List Char) (place : Int) : List Char :=
  let mantissa := match digits with
    | [d] => [d]
    | d :: ds => d :: '.' :: ds
    | [] => []
  let sign := if plusSign && 1 ≤ place then ['+'] else []
  mantissa ++ 'e' :: (sign ++ (toString (place - 1)).toList)

def sizeText (layout : Layout) (x : Binary64) : List Char :=
  if x.units = 0 then if layout.keepPoint then ['0', '.', '0'] else ['0']
  else
    let d := shortest layout.tie x
    let all := Text.decimal d.digits
    let digits := stripZeros all
    let place := all.length + d.exponent
    match layout.positional with
    | none => positionalText layout.keepPoint digits place
    | some (least, greatest) =>
      if least ≤ place && place ≤ greatest then positionalText layout.keepPoint digits place
      else exponentText layout.plusSign digits place

def text (layout : Layout) (x : Binary64) : String :=
  if x.isNaN then "NaN"
  else
    let size := if x.isInfinite then "inf".toList else x.sizeText layout
    String.ofList (if x.isNegative then '-' :: size else size)

end UnitTestGen.Binary64
