import UnitTestGen.Ty.Basic
import UnitTestGen.Text.Letter
import UnitTestGen.Text.Search

/-! The surface syntax of types, and the stem of the names of variables that hold them. -/

namespace UnitTestGen.Ty

mutual

def text : Ty → String
  | prim p => p.name
  | adt _ n [] _ => n
  | adt _ n (g :: gs) _ => n ++ "<" ++ textList (g :: gs) ++ ">"
  | tuple [t] => "(" ++ t.text ++ ",)"
  | tuple ts => "(" ++ textList ts ++ ")"
  | array t n => "[" ++ t.text ++ "; " ++ toString n.toNat ++ "]"
  | slice t => "[" ++ t.text ++ "]"
  | ref t true => "&mut " ++ t.text
  | ref t false => "&" ++ t.text
  | generic n _ => n
  | traitObj n _ => "dyn " ++ n
  | fn ps none => "fn(" ++ textList ps ++ ")"
  | fn ps (some r) => "fn(" ++ textList ps ++ ") -> " ++ r.text

def textList : List Ty → String
  | [] => ""
  | [t] => t.text
  | t :: ts => t.text ++ ", " ++ textList ts

end

def lastSegment (path : String) : List Char := Text.afterLast [':', ':'] path.toList

def snakeChar (atStart : Bool) (c : Char) : List Char :=
  if Text.isUppercase c then (if atStart then [] else ['_']) ++ Text.lowercase c
  else if Text.isAlphanumeric c then [c]
  else ['_']

/-- Lower case with an underscore before each former capital but the first character, and in place
of each character that no name may hold. -/
def snakeCase : List Char → List Char
  | [] => []
  | c :: s => snakeChar true c ++ s.flatMap (snakeChar false)

def varPrefix : Ty → List Char
  | prim p => p.name.toList
  | adt _ n _ _ => snakeCase (lastSegment n)
  | tuple [] => "unit".toList
  | tuple _ => "tuple".toList
  | array t _ => t.varPrefix ++ "_array".toList
  | slice t => t.varPrefix ++ "_slice".toList
  | ref t _ => t.varPrefix ++ "_ref".toList
  | generic n _ => snakeCase n.toList
  | traitObj n _ => "dyn_".toList ++ snakeCase (lastSegment n)
  | fn _ _ => "closure".toList

end UnitTestGen.Ty
