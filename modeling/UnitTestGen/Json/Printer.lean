import UnitTestGen.Json.Basic
import UnitTestGen.Binary64.Printer
import UnitTestGen.Text.Quoted

/-! Writing JSON text, on one line or indented. Strings escape the quote, the backslash and the
controls; a number that is not finite is written as null. -/

namespace UnitTestGen.Json

def escape (c : Char) : List Char :=
  if c == '"' then ['\\', '"']
  else if c == '\\' then ['\\', '\\']
  else if c == '\x08' then ['\\', 'b']
  else if c == '\x0c' then ['\\', 'f']
  else if c == '\n' then ['\\', 'n']
  else if c == '\r' then ['\\', 'r']
  else if c == '\t' then ['\\', 't']
  else if c.toNat < 0x20 then
    let digits := Text.hexadecimal c.toNat
    ['\\', 'u'] ++ List.replicate (4 - digits.length) '0' ++ digits
  else [c]

def stringText (s : String) : List Char := '"' :: s.toList.flatMap escape ++ ['"']

def Numeral.text : Numeral → List Char
  | .integer negative m => (if negative then ['-'] else []) ++ Text.decimal m
  | .fraction x => if x.isFinite then (x.text .json).toList else "null".toList

mutual

def compactChars : Json → List Char
  | .null => "null".toList
  | .bool b => (if b then "true" else "false").toList
  | .number n => n.text
  | .str s => stringText s
  | .arr elems => '[' :: compactElems elems ++ [']']
  | .obj members => '\x7b' :: compactMembers members ++ ['\x7d']
  | .valueless => "null".toList

def compactElems : List Json → List Char
  | [] => []
  | [v] => compactChars v
  | v :: vs => compactChars v ++ ',' :: compactElems vs

def compactMembers : List (String × Json) → List Char
  | [] => []
  | [(k, v)] => stringText k ++ ':' :: compactChars v
  | (k, v) :: ms => stringText k ++ ':' :: compactChars v ++ ',' :: compactMembers ms

end

def compact (j : Json) : String := String.ofList (compactChars j)

def newline (indent : Nat) : List Char := '\n' :: List.replicate (2 * indent) ' '

mutual

def indentedChars (indent : Nat) : Json → List Char
  | .arr (v :: vs) =>
    '[' :: indentedElems (indent + 1) (v :: vs) ++ newline indent ++ [']']
  | .obj (m :: ms) =>
    '\x7b' :: indentedMembers (indent + 1) (m :: ms) ++ newline indent ++ ['\x7d']
  | j => compactChars j

def indentedElems (indent : Nat) : List Json → List Char
  | [] => []
  | [v] => newline indent ++ indentedChars indent v
  | v :: vs => newline indent ++ indentedChars indent v ++ ',' :: indentedElems indent vs

def indentedMembers (indent : Nat) : List (String × Json) → List Char
  | [] => []
  | [(k, v)] => newline indent ++ stringText k ++ ": ".toList ++ indentedChars indent v
  | (k, v) :: ms =>
    newline indent ++ stringText k ++ ": ".toList ++ indentedChars indent v ++
      ',' :: indentedMembers indent ms

end

def indented (j : Json) : String := String.ofList (indentedChars 0 j)

end UnitTestGen.Json
