import UnitTestGen.Text.Printable

/-! Character and string literals in quotes. The quote of the literal's own kind, the backslash and
the common controls have short escapes; every other character that cannot be shown is written by its
code point in hexadecimal. -/

namespace UnitTestGen.Text

def hexadecimal (n : Nat) : List Char := Nat.toDigits 16 n

def escape (quote c : Char) : List Char :=
  if c == '\x00' then ['\\', '0']
  else if c == '\t' then ['\\', 't']
  else if c == '\r' then ['\\', 'r']
  else if c == '\n' then ['\\', 'n']
  else if c == '\\' || c == quote then ['\\', c]
  else if !isExtending c && isPrintable c then [c]
  else ['\\', 'u', '\x7b'] ++ hexadecimal c.toNat ++ ['\x7d']

def quotedChar (c : Char) : List Char := '\'' :: escape '\'' c ++ ['\'']

def quoted (s : List Char) : List Char := '"' :: s.flatMap (escape '"') ++ ['"']

end UnitTestGen.Text
