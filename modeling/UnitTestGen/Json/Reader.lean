import UnitTestGen.Json.Basic

/-! Reading JSON text. White space is the blank, the tab and the two line ends; a number has no
leading zeros; strings hold no raw controls. Each reader takes a value off the front of the text and
gives the rest, and is given as much fuel as there are characters to read. -/

namespace UnitTestGen.Json

def isSpace (c : Char) : Bool := c == ' ' || c == '\t' || c == '\n' || c == '\r'

def skipSpace (s : List Char) : List Char := s.dropWhile isSpace

def hexValue? (c : Char) : Option Nat :=
  if c.isDigit then some (c.toNat - '0'.toNat)
  else if 'a' ≤ c ∧ c ≤ 'f' then some (c.toNat - 'a'.toNat + 10)
  else if 'A' ≤ c ∧ c ≤ 'F' then some (c.toNat - 'A'.toNat + 10)
  else none

def readHex4 : List Char → Option (Nat × List Char)
  | a :: b :: c :: d :: rest => do
    let a ← hexValue? a
    let b ← hexValue? b
    let c ← hexValue? c
    let d ← hexValue? d
    some (((a * 16 + b) * 16 + c) * 16 + d, rest)
  | _ => none

def isHighSurrogate (n : Nat) : Bool := 0xD800 ≤ n && n < 0xDC00

def isLowSurrogate (n : Nat) : Bool := 0xDC00 ≤ n && n < 0xE000

def simpleEscape? : Char → Option Char
  | '"' => some '"'
  | '\\' => some '\\'
  | '/' => some '/'
  | 'b' => some '\x08'
  | 'f' => some '\x0c'
  | 'n' => some '\n'
  | 'r' => some '\r'
  | 't' => some '\t'
  | _ => none

/-- A code unit of an escape, with the second half of a pair if it follows; no character for a half
that stands alone. -/
def readCodeUnit (s : List Char) : Option (Option Char × List Char) := do
  let (unit, rest) ← readHex4 s
  if isHighSurrogate unit then
    match rest with
    | '\\' :: 'u' :: more =>
      let (second, after) ← readHex4 more
      if isLowSurrogate second then
        some (some (Char.ofNat (0x10000 + (unit - 0xD800) * 0x400 + (second - 0xDC00))), after)
      else some (none, rest)
    | _ => some (none, rest)
  else if isLowSurrogate unit then some (none, rest)
  else some (some (Char.ofNat unit), rest)

/-- The characters up to the closing quote; none of them if a surrogate stands alone. -/
def readStringBody : Nat → List Char → Option (Option (List Char) × List Char)
  | 0, _ => none
  | fuel + 1, s =>
    match s with
    | [] => none
    | '"' :: rest => some (some [], rest)
    | '\\' :: 'u' :: rest => do
      let (c, rest) ← readCodeUnit rest
      let (cs, rest) ← readStringBody fuel rest
      some (c.bind fun c => cs.map (c :: ·), rest)
    | '\\' :: e :: rest => do
      let c ← simpleEscape? e
      let (cs, rest) ← readStringBody fuel rest
      some (cs.map (c :: ·), rest)
    | c :: rest =>
      if c.toNat < 0x20 || c == '\\' then none
      else do
        let (cs, rest) ← readStringBody fuel rest
        some (cs.map (c :: ·), rest)

def readExponentPart (s : List Char) : Option (Int × List Char) :=
  let signed (negative : Bool) (s : List Char) : Option (Int × List Char) :=
    let digits := s.takeWhile Char.isDigit
    if digits.isEmpty then none
    else
      let n := Text.digitsValue digits
      some (if negative then -(n : Int) else n, s.dropWhile Char.isDigit)
  match s with
  | '-' :: rest => signed true rest
  | '+' :: rest => signed false rest
  | _ => signed false s

def readFractionPart : List Char → Option (List Char × List Char)
  | '.' :: rest =>
    let digits := rest.takeWhile Char.isDigit
    if digits.isEmpty then none else some (digits, rest.dropWhile Char.isDigit)
  | s => some ([], s)

def readNumber (negative : Bool) (s : List Char) : Option (Json × List Char) := do
  let whole := s.takeWhile Char.isDigit
  let rest := s.dropWhile Char.isDigit
  if whole.isEmpty || (whole.head? == some '0' && 1 < whole.length) then none
  else
    let (fraction, rest) ← readFractionPart rest
    let (exponent, rest) ← match rest with
      | 'e' :: rest => (readExponentPart rest).map fun (n, r) => (some n, r)
      | 'E' :: rest => (readExponentPart rest).map fun (n, r) => (some n, r)
      | _ => some (none, rest)
    if fraction.isEmpty && exponent.isNone then
      some (.number (.integer negative (Text.digitsValue whole)), rest)
    else
      match ofDigits negative whole fraction (exponent.getD 0) with
      | some x => some (.number (.fraction x), rest)
      | none => some (.valueless, rest)

def ofMembers (members : List (Option String × Json)) : Json :=
  match members.mapM fun (k, v) => k.map (·, v) with
  | some ms => .obj ms
  | none => .valueless

mutual

def readValue : Nat → List Char → Option (Json × List Char)
  | 0, _ => none
  | fuel + 1, s =>
    match skipSpace s with
    | 'n' :: 'u' :: 'l' :: 'l' :: rest => some (.null, rest)
    | 't' :: 'r' :: 'u' :: 'e' :: rest => some (.bool true, rest)
    | 'f' :: 'a' :: 'l' :: 's' :: 'e' :: rest => some (.bool false, rest)
    | '"' :: rest => do
      let (cs, rest) ← readStringBody (rest.length + 1) rest
      some (match cs with
        | some cs => .str (String.ofList cs)
        | none => .valueless, rest)
    | '[' :: rest =>
      match skipSpace rest with
      | ']' :: rest => some (.arr [], rest)
      | rest => do
        let (elems, rest) ← readElems fuel rest
        some (.arr elems, rest)
    | '\x7b' :: rest =>
      match skipSpace rest with
      | '\x7d' :: rest => some (.obj [], rest)
      | rest => do
        let (members, rest) ← readMembers fuel rest
        some (ofMembers members, rest)
    | '-' :: rest => readNumber true rest
    | rest => readNumber false rest

def readElems : Nat → List Char → Option (List Json × List Char)
  | 0, _ => none
  | fuel + 1, s => do
    let (v, rest) ← readValue fuel s
    match skipSpace rest with
    | ']' :: rest => some ([v], rest)
    | ',' :: rest =>
      let (vs, rest) ← readElems fuel rest
      some (v :: vs, rest)
    | _ => none

def readMembers : Nat → List Char → Option (List (Option String × Json) × List Char)
  | 0, _ => none
  | fuel + 1, s =>
    match skipSpace s with
    | '"' :: rest => do
      let (key, rest) ← readStringBody (rest.length + 1) rest
      let key := key.map String.ofList
      match skipSpace rest with
      | ':' :: rest =>
        let (v, rest) ← readValue fuel rest
        match skipSpace rest with
        | '\x7d' :: rest => some ([(key, v)], rest)
        | ',' :: rest =>
          let (ms, rest) ← readMembers fuel rest
          some ((key, v) :: ms, rest)
        | _ => none
      | _ => none
    | _ => none

end

def read (text : List Char) : Option Json :=
  match readValue (2 * text.length + 2) text with
  | some (v, rest) => if (skipSpace rest).isEmpty then some v else none
  | none => none

def ofText (text : String) : Option Json := read text.toList

end UnitTestGen.Json
