/-! Decimal numerals: runs of ASCII digits, read within a limit. -/

namespace UnitTestGen.Text

-- the limits are powers in the sense of the core library, whatever else a module sees
attribute [default_instance 20000] instPowNat

def digitValue (c : Char) : Nat := c.toNat - '0'.toNat

def digitsValue (s : List Char) : Nat := s.foldl (fun n c => 10 * n + digitValue c) 0

def readDigits (s : List Char) : Option Nat :=
  if !s.isEmpty && s.all Char.isDigit then some (digitsValue s) else none

def readUnsigned (limit : Nat) (s : List Char) : Option Nat :=
  let digits := match s with
    | '+' :: rest => rest
    | _ => s
  (readDigits digits).filter (· < limit)

def readUInt64 (s : List Char) : Option UInt64 := (readUnsigned UInt64.size s).map UInt64.ofNat

def readSigned (limit : Nat) (s : List Char) : Option Int :=
  match s with
  | '-' :: rest => ((readDigits rest).filter (· ≤ limit)).map fun n => -(n : Int)
  | _ => (readUnsigned limit s).map Int.ofNat

def decimal (n : Nat) : List Char := Nat.toDigits 10 n

end UnitTestGen.Text
