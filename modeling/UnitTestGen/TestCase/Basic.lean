import UnitTestGen.Coverage
import UnitTestGen.TestCase.Statement
import UnitTestGen.Ty.Binding

/-! Test cases: a sequence of statements with the facts attached to it after a run. Statements are
appended with fresh variables; inserted ones keep their identity and must belong to the test
case. -/

namespace UnitTestGen

structure TestCase where
  id : UInt64
  stmts : List Statement
  nextVar : Nat
  fails : Bool
  coverage : Coverage

namespace TestCase

def new (id : UInt64) : TestCase := ⟨id, [], 0, false, ∅⟩

def setId (tc : TestCase) (id : UInt64) : TestCase :=
  { tc with id, stmts := tc.stmts.map ({ · with owner := id }) }

def size (tc : TestCase) : Nat := tc.stmts.length

def freshVar (tc : TestCase) (ty : Ty) : Var × TestCase :=
  (⟨tc.nextVar, ty⟩, { tc with nextVar := tc.nextVar + 1 })

def push (tc : TestCase) (sid : StmtId) (action : Action) : TestCase :=
  { tc with stmts := tc.stmts ++ [⟨sid, tc.id, action⟩] }

def pushLiteral (tc : TestCase) (sid : StmtId) (value : Literal) : Var × TestCase :=
  let (v, tc) := tc.freshVar value.ty
  (v, tc.push sid (.literal value v))

def pushBorrow (tc : TestCase) (sid : StmtId) (target : Var) (mutable : Bool) : Var × TestCase :=
  let (v, tc) := tc.freshVar (.ref target.ty mutable)
  (v, tc.push sid (.borrow target mutable v))

def addUnbound (s t : Binding) : Binding := t.foldl (fun s name ty => s.insertIfNew name ty) s

/-- What the argument types tell about the parameters' generic parameters; the first argument that
settles a name decides. -/
def inferBinding (c : Call) : Binding :=
  c.bindings.foldl (fun s (p, a) => ((Ty.infer p.ty a.ty).map (addUnbound s)).getD s) ∅

def pushCall (tc : TestCase) (sid : StmtId) (callable : Callable) (args : List Var) :
    Except Misuse (Option Var × TestCase) := do
  let call ← Call.make callable args
  if callable.returnsValue then
    match callable.returnType with
    | some ret =>
      let (v, tc) := tc.freshVar (ret.subst (inferBinding call))
      .ok (some v, tc.push sid (.call call (some v)))
    | none => .ok (none, tc.push sid (.call call none))
  else .ok (none, tc.push sid (.call call none))

def insert (tc : TestCase) (pos : Nat) (s : Statement) : Except Misuse TestCase :=
  if s.owner ≠ tc.id then .error (.foreignStatement s.owner)
  else if tc.size < pos then .error .positionOutOfRange
  else .ok { tc with stmts := tc.stmts.insertIdx pos s }

def remove (tc : TestCase) (pos : Nat) : Except Misuse (Statement × TestCase) :=
  match tc.stmts[pos]? with
  | some s => .ok (s, { tc with stmts := tc.stmts.eraseIdx pos })
  | none => .error .positionOutOfRange

def edit (tc : TestCase) (pos : Nat) (f : Statement → Except Misuse Statement) :
    Except Misuse TestCase :=
  match tc.stmts[pos]? with
  | some s => (f s).map fun s => { tc with stmts := tc.stmts.set pos s }
  | none => .error .positionOutOfRange

def positionOf (tc : TestCase) (sid : StmtId) : Option Nat := tc.stmts.findIdx? (·.id == sid)

def position (tc : TestCase) (s : Statement) : Except Misuse Nat :=
  match tc.positionOf s.id with
  | some pos => .ok pos
  | none => .error .notPart

def definedBy (tc : TestCase) (v : Var) : Option Statement :=
  tc.stmts.find? fun s => s.result == some v

def definitionPosition (tc : TestCase) (v : Var) : Option Nat :=
  tc.stmts.findIdx? fun s => s.result == some v

def definedVars (tc : TestCase) : List Var := tc.stmts.filterMap Statement.result

def agrees (a b : TestCase) : Bool :=
  a.id == b.id && a.stmts.length == b.stmts.length &&
    ((a.stmts.zip b.stmts).all fun (s, t) => s.agrees t) && a.nextVar == b.nextVar &&
    a.fails == b.fails && a.coverage.agrees b.coverage

end TestCase
end UnitTestGen
