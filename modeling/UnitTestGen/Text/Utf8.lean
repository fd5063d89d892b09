/-! Bytes as text. Well-formed sequences of one to four bytes give characters; what is not
well-formed gives one replacement character for each longest beginning of a well-formed sequence,
or for a single byte that begins none. -/

namespace UnitTestGen.Text

def replacement : Char := Char.ofNat 0xFFFD

def isTail (b : UInt8) : Bool := 0x80 ≤ b && b ≤ 0xBF

def tailCount (b : UInt8) : Option Nat :=
  if b < 0x80 then some 0
  else if 0xC2 ≤ b && b ≤ 0xDF then some 1
  else if 0xE0 ≤ b && b ≤ 0xEF then some 2
  else if 0xF0 ≤ b && b ≤ 0xF4 then some 3
  else none

def isSecond (first b : UInt8) : Bool :=
  isTail b &&
    if first == 0xE0 then 0xA0 ≤ b
    else if first == 0xED then b ≤ 0x9F
    else if first == 0xF0 then 0x90 ≤ b
    else if first == 0xF4 then b ≤ 0x8F
    else true

def takeTail (first : UInt8) (n : Nat) (bytes : List UInt8) : List UInt8 :=
  match n, bytes with
  | n + 1, b :: rest =>
    if isSecond first b then b :: (rest.take n).takeWhile isTail else []
  | _, _ => []

def codePoint (first : UInt8) (tail : List UInt8) : Nat :=
  let lead := match tail.length with
    | 0 => first.toNat
    | 1 => first.toNat % 0x20
    | 2 => first.toNat % 0x10
    | _ => first.toNat % 0x08
  tail.foldl (fun n b => n * 0x40 + b.toNat % 0x40) lead

def decodeLossyWithin : Nat → List UInt8 → List Char
  | 0, _ => []
  | _ + 1, [] => []
  | fuel + 1, b :: rest =>
    match tailCount b with
    | none => replacement :: decodeLossyWithin fuel rest
    | some n =>
      let tail := takeTail b n rest
      let c := if tail.length = n then Char.ofNat (codePoint b tail) else replacement
      c :: decodeLossyWithin fuel (rest.drop tail.length)

def decodeLossy (bytes : ByteArray) : String :=
  String.ofList (decodeLossyWithin bytes.size bytes.toList)

end UnitTestGen.Text
