import UnitTestGen.Text.Numeral

/-! Numbers of the 64-bit binary format, held as their bits. Every finite number is a whole multiple
of the least positive one, `2 ^ (-1074)`, so its size is a natural number of such units; comparison
and rounding are exact arithmetic on units. -/

namespace UnitTestGen

structure Binary64 where
  bits : UInt64
  deriving DecidableEq, Inhabited

namespace Binary64

def magnitude (x : Binary64) : Nat := x.bits.toNat % 2 ^ 63

def isNegative (x : Binary64) : Bool := 2 ^ 63 ≤ x.bits.toNat

/-- The magnitude bits of the infinities; those of a NaN are larger. -/
def infiniteMagnitude : Nat := 2047 * 2 ^ 52

def isNaN (x : Binary64) : Bool := infiniteMagnitude < x.magnitude

def isInfinite (x : Binary64) : Bool := x.magnitude == infiniteMagnitude

def isFinite (x : Binary64) : Bool := x.magnitude < infiniteMagnitude

def ofMagnitude (negative : Bool) (magnitude : Nat) : Binary64 :=
  ⟨UInt64.ofNat (if negative then 2 ^ 63 + magnitude else magnitude)⟩

def zero : Binary64 := ⟨0⟩

def nan : Binary64 := ofMagnitude false (infiniteMagnitude + 2 ^ 51)

def infinity (negative : Bool) : Binary64 := ofMagnitude negative infiniteMagnitude

/-- The size of a finite number in units of `2 ^ (-1074)`. -/
def units (x : Binary64) : Nat :=
  let exponent := x.magnitude / 2 ^ 52
  let fraction := x.magnitude % 2 ^ 52
  (if exponent = 0 then fraction else 2 ^ 52 + fraction) <<< (exponent - 1)

/-- The magnitude bits with the sign applied; equal exactly for numerically equal numbers. -/
def rank (x : Binary64) : Int := if x.isNegative then -(x.magnitude : Int) else x.magnitude

def lt (x y : Binary64) : Bool := !x.isNaN && !y.isNaN && decide (x.rank < y.rank)

/-- Equality as numbers: the two zeros are equal and a NaN is equal to nothing. -/
def numEq (x y : Binary64) : Bool := !x.isNaN && !y.isNaN && x.rank == y.rank

/-- The smaller of two numbers, the second if they are equal; a NaN gives way to the other. -/
def min (x y : Binary64) : Binary64 :=
  if y.isNaN then x else if x.lt y then x else y

def roundHalfEven (num den : Nat) : Nat :=
  let floor := num / den
  let rest := 2 * (num % den)
  if rest < den then floor
  else if den < rest then floor + 1
  else floor + floor % 2

/-- The magnitude bits nearest to `num / den` units; too large a quotient gives infinity. -/
def roundUnits (num den : Nat) : Nat :=
  let shift := Nat.log2 (num / den) - 52
  let bits := shift * 2 ^ 52 + roundHalfEven num (den <<< shift)
  if infiniteMagnitude ≤ bits then infiniteMagnitude else bits

def ofRatio (negative : Bool) (num den : Nat) : Binary64 :=
  ofMagnitude negative (roundUnits (num * 2 ^ 1074) den)

def ofNat (n : Nat) : Binary64 := ofRatio false n 1

def mulSize (x y : Binary64) : Binary64 :=
  ofMagnitude false (roundUnits (x.units * y.units) (2 ^ 1074))

def divSize (x y : Binary64) : Binary64 := ofRatio false x.units y.units

def withSign (negative : Bool) (x : Binary64) : Binary64 := ofMagnitude negative x.magnitude

/-- The number nearest to `digits * 10 ^ exponent`. Sizes that are infinite or zero for certain are
recognised by the number of digits, so that no large power is formed for them. -/
def ofDecimal (negative : Bool) (digits : Nat) (exponent : Int) : Binary64 :=
  let scale := (Nat.toDigits 10 digits).length + exponent
  if digits = 0 || scale < -330 then ofMagnitude negative 0
  else if 310 < scale then infinity negative
  else if 0 ≤ exponent then ofRatio negative (digits * Nat.pow 10 exponent.toNat) 1
  else ofRatio negative digits (Nat.pow 10 (-exponent).toNat)

theorem lt_irrefl (x : Binary64) : x.lt x = false := by simp [lt]

end Binary64
end UnitTestGen
