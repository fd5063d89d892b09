import UnitTestGen.TestCase.Basic

/-! The source text of test cases: one test function each, in a module that sees everything of its
parent. A variable is rebindable only where something takes a mutable reference of it. -/

namespace UnitTestGen

/-- The name of the test function; what reads test output relies on the id at its end. -/
def testFunctionName (id : UInt64) : String := "case_" ++ toString id.toNat

def commaSeparated (xs : List String) : String := String.intercalate ", " xs

namespace Call

def text (c : Call) : String :=
  let args := c.args.map Var.name
  match c.callable.kind, c.callable.parentPath, args with
  | .method, _, receiver :: rest =>
    receiver ++ "." ++ c.callable.name ++ "(" ++ commaSeparated rest ++ ")"
  | .structInit, some parent, _ =>
    if c.callable.params.all (·.name.isSome) && !c.callable.params.isEmpty then
      let fields := (c.callable.params.zip args).map fun (p, a) => p.name.getD "" ++ ": " ++ a
      parent ++ " \x7b " ++ commaSeparated fields ++ " \x7d"
    else if args.isEmpty then parent
    else parent ++ "(" ++ commaSeparated args ++ ")"
  | .enumInit variant, some parent, _ =>
    if args.isEmpty then parent ++ "::" ++ variant
    else parent ++ "::" ++ variant ++ "(" ++ commaSeparated args ++ ")"
  | _, some parent, _ => parent ++ "::" ++ c.callable.name ++ "(" ++ commaSeparated args ++ ")"
  | _, none, _ => c.callable.name ++ "(" ++ commaSeparated args ++ ")"

end Call

namespace TestCase

/-- A statement needs the variable to be declared as mutable: it takes a mutable reference of it, or
passes it, not being a reference itself, as one. -/
def needsMut (s : Statement) (v : Var) : Bool :=
  match s.action with
  | .literal _ _ => false
  | .borrow target mutable _ => mutable && target == v
  | .call c _ => !v.ty.isRef && c.mutates v

def isMutable (tc : TestCase) (v : Var) : Bool := tc.stmts.any (needsMut · v)

def definitionText (tc : TestCase) (v : Var) : String :=
  let keyword := if tc.isMutable v then "let mut " else "let "
  if v.ty.hasGenericParams then keyword ++ v.name else keyword ++ v.name ++ ": " ++ v.ty.text

def statementText (tc : TestCase) (s : Statement) : String :=
  match s.action with
  | .literal value v => tc.definitionText v ++ " = " ++ value.text ++ ";"
  | .borrow target mutable v =>
    tc.definitionText v ++ " = " ++ (if mutable then "&mut " else "&") ++ target.name ++ ";"
  | .call c (some v) => tc.definitionText v ++ " = " ++ c.text ++ ";"
  | .call c none => c.text ++ ";"

def functionLines (tc : TestCase) : List String :=
  ["    #[test]", "    fn " ++ testFunctionName tc.id ++ "() \x7b"] ++
    tc.stmts.map (fun s => "        " ++ tc.statementText s) ++ ["    \x7d"]

end TestCase

def unlines (lines : List String) : String := String.join (lines.map (· ++ "\n"))

def TestCase.text (tc : TestCase) : String := unlines tc.functionLines

def testModuleText (moduleName : String) (cases : List TestCase) : String :=
  unlines (["#[cfg(test)]", "#[allow(unused)]", "mod " ++ moduleName ++ " \x7b",
    "    use super::*;"] ++ cases.flatMap (fun tc => "" :: tc.functionLines) ++ ["\x7d"])

end UnitTestGen
