import UnitTestGen.Binary64.Reader
import UnitTestGen.Text.Numeral
import UnitTestGen.Toml.Basic

/-! Strings, numbers and dates of a TOML document. Each reader takes one off the front of the text
and gives the rest. -/

namespace UnitTestGen.Toml

def isSpace (c : Char) : Bool := c == ' ' || c == '\t'

def skipSpace (s : List Char) : List Char := s.dropWhile isSpace

/-- What comments and strings may hold as it is: everything but controls other than the tab. -/
def isPlain (c : Char) : Bool := c == '\t' || (0x20 ≤ c.toNat && c.toNat != 0x7F)

def isHex (c : Char) : Bool := c.isDigit || ('a' ≤ c && c ≤ 'f') || ('A' ≤ c && c ≤ 'F')

def hexDigit (c : Char) : Nat :=
  if c.isDigit then Text.digitValue c else c.toLower.toNat - 'a'.toNat + 10

def ofBase (base : Nat) (digits : List Char) : Nat :=
  digits.foldl (fun n c => base * n + hexDigit c) 0

def lineEnd? : List Char → Option (List Char)
  | '\n' :: rest => some rest
  | '\r' :: '\n' :: rest => some rest
  | _ => none

def readCodePoint (count : Nat) (s : List Char) : Option (Char × List Char) :=
  let digits := s.take count
  let n := ofBase 16 digits
  if digits.length = count ∧ digits.all isHex ∧ n.isValidChar then
    some (Char.ofNat n, s.drop count)
  else none

def readEscape : List Char → Option (Char × List Char)
  | 'b' :: rest => some ('\x08', rest)
  | 't' :: rest => some ('\t', rest)
  | 'n' :: rest => some ('\n', rest)
  | 'f' :: rest => some ('\x0c', rest)
  | 'r' :: rest => some ('\r', rest)
  | '"' :: rest => some ('"', rest)
  | '\\' :: rest => some ('\\', rest)
  | 'u' :: rest => readCodePoint 4 rest
  | 'U' :: rest => readCodePoint 8 rest
  | _ => none

/-- The characters of a string on one line up to the closing quote. Only the double quote makes
escapes. -/
def readLineBody (quote : Char) : Nat → List Char → Option (List Char × List Char)
  | 0, _ => none
  | fuel + 1, s =>
    match s with
    | [] => none
    | c :: rest =>
      if c = quote then some ([], rest)
      else if c = '\\' ∧ quote = '"' then do
        let (c, rest) ← readEscape rest
        let (cs, rest) ← readLineBody quote fuel rest
        some (c :: cs, rest)
      else if isPlain c then do
        let (cs, rest) ← readLineBody quote fuel rest
        some (c :: cs, rest)
      else none

def skipLineEnds (s : List Char) : Option (List Char) :=
  (lineEnd? (skipSpace s)).map skipAll
where
  skipAll : List Char → List Char
    | '\n' :: rest => skipAll rest
    | '\r' :: '\n' :: rest => skipAll rest
    | c :: rest => if isSpace c then skipAll rest else c :: rest
    | [] => []

/-- Up to two quotes that stand before the closing three belong to the string. -/
def quotesAtEnd (quote : Char) : List Char → List Char × List Char
  | a :: b :: rest =>
    if a ≠ quote then ([], a :: b :: rest)
    else if b ≠ quote then ([a], b :: rest)
    else ([a, b], rest)
  | [a] => if a = quote then ([a], []) else ([], [a])
  | [] => ([], [])

/-- The characters of a string over several lines up to three closing quotes. A backslash at the end
of a line takes away white space up to the next character. -/
def readMultilineBody (quote : Char) : Nat → List Char → Option (List Char × List Char)
  | 0, _ => none
  | fuel + 1, s =>
    if [quote, quote, quote].isPrefixOf s then some (quotesAtEnd quote (s.drop 3))
    else
      match lineEnd? s with
      | some rest => do
        let (cs, rest) ← readMultilineBody quote fuel rest
        some ('\n' :: cs, rest)
      | none =>
        match s with
        | [] => none
        | c :: rest =>
          if c = '\\' ∧ quote = '"' then
            match skipLineEnds rest with
            | some rest => readMultilineBody quote fuel rest
            | none => do
              let (c, rest) ← readEscape rest
              let (cs, rest) ← readMultilineBody quote fuel rest
              some (c :: cs, rest)
          else if isPlain c then do
            let (cs, rest) ← readMultilineBody quote fuel rest
            some (c :: cs, rest)
          else none

def readString (s : List Char) : Option (List Char × List Char) :=
  match s with
  | [] => none
  | quote :: rest =>
    if quote ≠ '"' ∧ quote ≠ '\'' then none
    else if [quote, quote].isPrefixOf rest then
      let body := rest.drop 2
      readMultilineBody quote s.length ((lineEnd? body).getD body)
    else readLineBody quote s.length rest

/-- Digits among which single underscores may stand; they are left out. -/
def readRun (isDigit : Char → Bool) : List Char → Option (List Char × List Char)
  | [] => none
  | c :: s => if isDigit c then (more s).map fun (cs, rest) => (c :: cs, rest) else none
where
  more : List Char → Option (List Char × List Char)
    | [] => some ([], [])
    | '_' :: c :: s => if isDigit c then (more s).map fun (cs, rest) => (c :: cs, rest) else none
    | ['_'] => none
    | c :: s =>
      if isDigit c then (more s).map fun (cs, rest) => (c :: cs, rest) else some ([], c :: s)

/-- Decimal digits, of which a zero can only be the first if it is the only one. -/
def readWhole : List Char → Option (List Char × List Char)
  | '0' :: rest => some (['0'], rest)
  | s => readRun Char.isDigit s

def readSign : List Char → List Char × List Char
  | '-' :: rest => (['-'], rest)
  | '+' :: rest => (['+'], rest)
  | s => ([], s)

def readFraction (s : List Char) : Option (List Char × List Char) :=
  match s with
  | '.' :: rest => (readRun Char.isDigit rest).map fun (ds, rest) => ('.' :: ds, rest)
  | _ => some ([], s)

def readExponent (s : List Char) : Option (List Char × List Char) :=
  match s with
  | c :: rest =>
    if c = 'e' ∨ c = 'E' then
      let (sign, rest) := readSign rest
      (readRun Char.isDigit rest).map fun (ds, rest) => ('e' :: sign ++ ds, rest)
    else some ([], s)
  | [] => some ([], [])

def integer? (n : Int) : Option Toml :=
  if -(2 ^ 63 : Int) ≤ n ∧ n < 2 ^ 63 then some (.integer n) else none

def readBased (base : Nat) (isDigit : Char → Bool) (s : List Char) : Option (Toml × List Char) := do
  let (digits, rest) ← readRun isDigit s
  let n ← integer? (ofBase base digits)
  some (n, rest)

/-- A number; one with a fraction or an exponent is rounded and does not become infinite above. -/
def readNumber : List Char → Option (Toml × List Char)
  | '0' :: 'x' :: rest => readBased 16 isHex rest
  | '0' :: 'o' :: rest => readBased 8 (fun c => '0' ≤ c && c ≤ '7') rest
  | '0' :: 'b' :: rest => readBased 2 (fun c => c == '0' || c == '1') rest
  | s => do
    let (sign, s) := readSign s
    let negative := sign == ['-']
    match s with
    | 'i' :: 'n' :: 'f' :: rest => some (.float (.infinity negative), rest)
    | 'n' :: 'a' :: 'n' :: rest => some (.float .nan, rest)
    | _ =>
      let (whole, rest) ← readWhole s
      let (fraction, rest) ← readFraction rest
      let (exponent, rest) ← readExponent rest
      if fraction.isEmpty && exponent.isEmpty then
        let n : Int := Text.digitsValue whole
        let n ← integer? (if negative then -n else n)
        some (n, rest)
      else
        let x ← Binary64.read (sign ++ whole ++ fraction ++ exponent)
        if x = .infinity false then none else some (.float x, rest)

def readTwo : List Char → Option (Nat × List Char)
  | a :: b :: rest =>
    if a.isDigit && b.isDigit then some (Text.digitsValue [a, b], rest) else none
  | _ => none

def daysIn (year month : Nat) : Nat :=
  if month = 2 then
    if year % 4 = 0 ∧ (year % 100 ≠ 0 ∨ year % 400 = 0) then 29 else 28
  else if month = 4 ∨ month = 6 ∨ month = 9 ∨ month = 11 then 30
  else 31

def afterDate? (s : List Char) : Option (List Char) := do
  let (century, rest) ← readTwo s
  let (year, rest) ← readTwo rest
  match rest with
  | '-' :: rest =>
    let (month, rest) ← readTwo rest
    match rest with
    | '-' :: rest =>
      let (day, rest) ← readTwo rest
      if 1 ≤ month ∧ month ≤ 12 ∧ 1 ≤ day ∧ day ≤ daysIn (100 * century + year) month then some rest
      else none
    | _ => none
  | _ => none

def afterHourMinute? (s : List Char) : Option (List Char) := do
  let (hour, rest) ← readTwo s
  match rest with
  | ':' :: rest =>
    let (minute, rest) ← readTwo rest
    if hour ≤ 23 ∧ minute ≤ 59 then some rest else none
  | _ => none

def afterTime? (s : List Char) : Option (List Char) := do
  match ← afterHourMinute? s with
  | ':' :: rest =>
    let (second, rest) ← readTwo rest
    if second ≤ 60 then
      match rest with
      | '.' :: c :: more => if c.isDigit then some (more.dropWhile Char.isDigit) else none
      | _ => some rest
    else none
  | _ => none

def afterOffset (s : List Char) : List Char :=
  match s with
  | 'Z' :: rest => rest
  | 'z' :: rest => rest
  | '+' :: rest => (afterHourMinute? rest).getD s
  | '-' :: rest => (afterHourMinute? rest).getD s
  | _ => s

def afterMoment? (s : List Char) : Option (List Char) :=
  match afterDate? s with
  | none => afterTime? s
  | some rest =>
    match rest with
    | c :: time =>
      if c = 'T' ∨ c = 't' ∨ c = ' ' then
        match afterTime? time with
        | some rest => some (afterOffset rest)
        | none => some rest
      else some rest
    | [] => some []

end UnitTestGen.Toml
