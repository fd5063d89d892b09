import UnitTestGen.Registry.Basic
import UnitTestGen.TestCase.Basic

/-! Which variables can still be borrowed or moved at a position of a test case. A reference lives
as long as what it refers to, through any number of references; other values live until they are
moved, and values that are copied are never moved. -/

namespace UnitTestGen.TestCase

def borrowed (tc : TestCase) (v : Var) : Option Var := (tc.definedBy v).bind Statement.borrowTarget

def followBorrows (tc : TestCase) : Nat → Var → Var
  | 0, v => v
  | n + 1, v =>
    match tc.borrowed v with
    | some target => tc.followBorrows n target
    | none => v

/-- What a variable refers to in the end. The type of a variable taken by reference is one reference
less deep, so the depth of the type bounds the way. -/
def root (tc : TestCase) (v : Var) : Var := tc.followBorrows v.ty.refDepth v

/-- The variable, or the one a reference was taken of, is bound to a parameter taken by value. -/
def callConsumes (tc : TestCase) (c : Call) (v : Var) : Bool :=
  if v.ty.isRef then
    match tc.borrowed v with
    | some target => c.takesByValue target
    | none => false
  else c.takesByValue v

/-- A reference is passed itself, or a plain variable is behind a reference that is passed. -/
def callBorrows (tc : TestCase) (c : Call) (v : Var) : Bool :=
  if v.ty.isRef then c.uses v
  else c.args.any fun a => a.ty.isRef && tc.borrowed a == some v

def consumes (tc : TestCase) (s : Statement) (v : Var) : Bool :=
  match s.action with
  | .call c _ => tc.callConsumes c v
  | _ => false

def borrows (tc : TestCase) (s : Statement) (v : Var) : Bool :=
  match s.action with
  | .literal _ _ => false
  | .borrow target _ _ => target == v
  | .call c _ => tc.callBorrows c v

def isMovedBy (tc : TestCase) (v : Var) (pos : Nat) : Bool :=
  let r := tc.root v
  !r.ty.isCopy && (tc.stmts.take (pos + 1)).any (tc.consumes · r)

def isBorrowableAt (tc : TestCase) (v : Var) (pos : Nat) : Bool :=
  match tc.definitionPosition v with
  | some d => d < pos && !tc.isMovedBy v pos
  | none => false

def isConsumableAt (tc : TestCase) (v : Var) (pos : Nat) : Bool :=
  tc.isBorrowableAt v pos && !(tc.stmts.drop pos).any fun s => s.uses v || tc.borrows s v

def borrowableAt (tc : TestCase) (pos : Nat) : List Var :=
  tc.definedVars.filter (tc.isBorrowableAt · pos)

end UnitTestGen.TestCase

namespace UnitTestGen.Registry

/-- Whether a method can be called on a variable at the end of a test case: its owner accepts the
type, and the receiver can be borrowed or moved as the method takes it. -/
def canReceive (tc : TestCase) (method : Callable) (v : Var) : Bool :=
  method.parent.any (·.accepts v.ty) &&
    match method.selfParam with
    | some receiver =>
      if receiver.isByReference then tc.isBorrowableAt v tc.size else tc.isConsumableAt v tc.size
    | none => tc.isConsumableAt v tc.size

def methodsOf (r : Registry) (tc : TestCase) (vars : List Var) : List (Var × Callable) :=
  (r.callables.filter Callable.isMethod).flatMap fun method =>
    (vars.filter (canReceive tc method)).map (·, method)

end UnitTestGen.Registry
