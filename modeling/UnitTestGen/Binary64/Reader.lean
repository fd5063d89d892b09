import UnitTestGen.Binary64.Basic
import UnitTestGen.Text.Numeral

/-! Decimal text of a number: an optional sign, then a word for infinity or no number in any case,
or digits with an optional point and an optional exponent. The nearest number is taken. -/

namespace UnitTestGen.Binary64

open Text

def splitMantissa (s : List Char) : List Char × List Char × List Char :=
  let whole := s.takeWhile Char.isDigit
  match s.dropWhile Char.isDigit with
  | '.' :: rest => (whole, rest.takeWhile Char.isDigit, rest.dropWhile Char.isDigit)
  | rest => (whole, [], rest)

def readExponent : List Char → Option Int
  | [] => some 0
  | mark :: s =>
    if mark == 'e' || mark == 'E' then
      match s with
      | '-' :: rest => (readDigits rest).map fun n => -(n : Int)
      | '+' :: rest => (readDigits rest).map Int.ofNat
      | rest => (readDigits rest).map Int.ofNat
    else none

def readUnsignedText (negative : Bool) (s : List Char) : Option Binary64 :=
  let word := String.ofList (s.map Char.toLower)
  if word == "inf" || word == "infinity" then some (infinity negative)
  else if word == "nan" then some nan
  else
    let (whole, fraction, rest) := splitMantissa s
    if whole.isEmpty && fraction.isEmpty then none
    else (readExponent rest).map fun e =>
      ofDecimal negative (digitsValue (whole ++ fraction)) (e - fraction.length)

def read (s : List Char) : Option Binary64 :=
  match s with
  | '-' :: rest => readUnsignedText true rest
  | '+' :: rest => readUnsignedText false rest
  | _ => readUnsignedText false s

end UnitTestGen.Binary64
