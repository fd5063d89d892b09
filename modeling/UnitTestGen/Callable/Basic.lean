import UnitTestGen.Ty.Order
import UnitTestGen.Ty.Text

/-! Functions, methods and constructors that test cases can call. -/

namespace UnitTestGen

inductive PassingMode where
  | byValue
  | byRef
  | byMutRef
  deriving DecidableEq

/-- A formal parameter; the receiver of a method is its first one. -/
structure Param where
  name : Option String
  ty : Ty
  deriving DecidableEq

namespace Param

def mode (p : Param) : PassingMode :=
  match p.ty with
  | .ref _ true => .byMutRef
  | .ref _ false => .byRef
  | _ => .byValue

def isByReference (p : Param) : Bool := p.mode != .byValue

def isMutable (p : Param) : Bool := p.mode == .byMutRef

theorem isByReference_eq_isRef (p : Param) : p.isByReference = p.ty.isRef := by
  obtain ⟨_, t⟩ := p
  rcases t with _ | _ | _ | _ | _ | ⟨_, _ | _⟩ | _ | _ | _ <;> rfl

end Param

inductive Visibility where
  | pub
  | loc
  deriving DecidableEq

inductive CallableKind where
  | function
  | method
  | staticMethod
  /-- A struct literal; the parameters are the fields. -/
  | structInit
  | enumInit (variant : String)
  deriving DecidableEq

structure Callable where
  name : String
  kind : CallableKind
  parent : Option Ty
  params : List Param
  returnType : Option Ty
  generics : List Ty
  visibility : Visibility
  /-- The source file of the declaration; none for what is built in or external. -/
  srcFile : Option String
  ofTrait : Option String
  deriving DecidableEq

namespace Callable

def isMethod (c : Callable) : Bool := c.kind == .method

def isPublic (c : Callable) : Bool := c.visibility == .pub

/-- Declared in the crate under test. -/
def isLocal (c : Callable) : Bool := c.srcFile.isSome

def isVisibleFrom (c : Callable) (file : String) : Bool := c.isPublic || c.srcFile == some file

def returnsValue (c : Callable) : Bool := c.returnType.any (!·.isUnit)

def selfParam (c : Callable) : Option Param := if c.isMethod then c.params.head? else none

def parentPath (c : Callable) : Option String := c.parent.bind Ty.name

def text (c : Callable) : String :=
  let name := match c.kind, c.parentPath with
    | .enumInit variant, some parent => parent ++ "::" ++ variant
    | _, some parent => parent ++ "::" ++ c.name
    | _, none => c.name
  let ret := match c.returnType with
    | some t => " -> " ++ t.text
    | none => ""
  name ++ "(" ++ Ty.textList (c.params.map (·.ty)) ++ ")" ++ ret

end Callable
end UnitTestGen
