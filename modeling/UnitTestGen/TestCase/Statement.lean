import UnitTestGen.Callable.Basic
import UnitTestGen.TestCase.Literal

/-! Statements of a test case: a variable holds a literal, a reference to another variable, or the
result of a call. A call uses its arguments by position, each in the passing mode of its
parameter. -/

namespace UnitTestGen

structure Var where
  id : Nat
  ty : Ty
  deriving DecidableEq

namespace Var

def name (v : Var) : String := String.ofList v.ty.varPrefix ++ "_" ++ toString v.id

def text (v : Var) : String := v.name ++ ": " ++ v.ty.text

end Var

inductive Misuse where
  /-- A call needs one argument for each parameter. -/
  | arity (callable : Callable)
  /-- Only an argument of a call can be replaced. -/
  | notAnArgument (old : Var) (callable : Callable)
  /-- A statement belongs to the test case with this id. -/
  | foreignStatement (owner : UInt64)
  | positionOutOfRange
  | notPart
  deriving DecidableEq

namespace Misuse

def message : Misuse → Option String
  | arity c => some ("unequal number of args and params for " ++ c.text)
  | notAnArgument old c => some (old.text ++ " is not an argument of " ++ c.text)
  | foreignStatement owner => some ("statement belongs to test case " ++ toString owner.toNat)
  | positionOutOfRange | notPart => none

end Misuse

structure Call where
  callable : Callable
  args : List Var
  deriving DecidableEq

namespace Call

def bindings (c : Call) : List (Param × Var) := c.callable.params.zip c.args

def make (callable : Callable) (args : List Var) : Except Misuse Call :=
  if args.length = callable.params.length then .ok ⟨callable, args⟩ else .error (.arity callable)

def setArgs (c : Call) (args : List Var) : Except Misuse Call := make c.callable args

def setArg (c : Call) (pos : Nat) (arg : Var) : Except Misuse Call :=
  if pos < c.args.length then .ok { c with args := c.args.set pos arg }
  else .error .positionOutOfRange

def uses (c : Call) (v : Var) : Bool := c.args.any (· == v)

def mutates (c : Call) (v : Var) : Bool :=
  c.bindings.any fun (p, a) => a == v && p.isMutable

def takesByValue (c : Call) (v : Var) : Bool :=
  c.bindings.any fun (p, a) => a == v && !p.isByReference

def replace (c : Call) (old new : Var) : Except Misuse Call :=
  if c.uses old then .ok { c with args := c.args.map fun a => if a = old then new else a }
  else .error (.notAnArgument old c.callable)

end Call

abbrev StmtId := Nat

inductive Action where
  | literal (value : Literal) (result : Var)
  | borrow (target : Var) (mutable : Bool) (result : Var)
  | call (call : Call) (result : Option Var)

structure Statement where
  id : StmtId
  owner : UInt64
  action : Action

namespace Statement

def result (s : Statement) : Option Var :=
  match s.action with
  | .literal _ v | .borrow _ _ v => some v
  | .call _ v => v

def args (s : Statement) : List Var :=
  match s.action with
  | .literal _ _ => []
  | .borrow target _ _ => [target]
  | .call c _ => c.args

def borrowTarget (s : Statement) : Option Var :=
  match s.action with
  | .borrow target _ _ => some target
  | _ => none

def asCall (s : Statement) : Option Call :=
  match s.action with
  | .call c _ => some c
  | _ => none

def uses (s : Statement) (v : Var) : Bool := s.args.any (· == v)

def mutates (s : Statement) (v : Var) : Bool :=
  match s.action with
  | .literal _ _ => false
  | .borrow target mutable _ => mutable && target == v
  | .call c _ => c.mutates v

def setValue (s : Statement) (value : Literal) : Option Statement :=
  match s.action with
  | .literal _ v => some { s with action := .literal value v }
  | _ => none

def editCall (s : Statement) (f : Call → Except Misuse Call) : Except Misuse Statement :=
  match s.action with
  | .call c v => (f c).map fun c => { s with action := .call c v }
  | _ => .error .notPart

def agrees (s t : Statement) : Bool :=
  s.id == t.id && s.owner == t.owner &&
    match s.action, t.action with
    | .literal a v, .literal b w => a.agrees b && v == w
    | .borrow x m v, .borrow y n w => x == y && m == n && v == w
    | .call c v, .call d w => c == d && v == w
    | _, _ => false

end Statement
end UnitTestGen
