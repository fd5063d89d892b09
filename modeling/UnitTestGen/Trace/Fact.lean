import UnitTestGen.Binary64.Printer
import UnitTestGen.Binary64.Reader
import UnitTestGen.Coverage
import UnitTestGen.Text.Blank
import UnitTestGen.Text.Search

/-! Trace lines. An instrumented test reports a fact per line: the test id, the identity of a
function between dollar signs, and either the word `root` for its entry or the word `branch` with
a block index and a distance in brackets. Lines of other forms are log output and no facts; a line
of this form with another word, or with brackets that do not hold these two numbers, is an error.
-/

namespace UnitTestGen

open Text

structure TraceFact where
  testId : UInt64
  block : Block
  distance : Binary64
  deriving DecidableEq

inductive TraceError where
  | unknownKind (kind line : String)
  | malformedPayload (line : String)
  deriving DecidableEq

namespace TraceError

def message : TraceError → String
  | unknownKind kind line => "unknown trace kind '" ++ kind ++ "' in line: " ++ line
  | malformedPayload line => "malformed trace payload in line: " ++ line

end TraceError

namespace TraceFact

def line (f : TraceFact) : String :=
  let head := toString f.testId.toNat ++ " $" ++ f.block.globalId ++ "$ "
  if f.block.blockId = 0 ∧ f.distance.numEq .zero then head ++ "root"
  else
    head ++ "branch[" ++ toString f.block.blockId.toNat ++ " " ++ f.distance.text .plain ++ "]"

def isDistance (d : Binary64) : Bool := d.isFinite && !d.lt .zero

def readPayload (payload : List Char) : Option (UInt64 × Binary64) :=
  match payload with
  | '[' :: rest =>
    match rest.reverse with
    | ']' :: inner =>
      match words inner.reverse with
      | [index, distance] => do
        let index ← readUInt64 index
        let distance ← (Binary64.read distance).filter isDistance
        some (index, distance)
      | _ => none
    | [] | _ :: _ => none
  | _ => none

def dollarParts (s : List Char) : Option (List Char × List Char) := do
  let (_, rest) ← cut ['$'] s
  cutLast ['$'] rest

def kindAndPayload (s : List Char) : List Char × List Char :=
  (s.takeWhile (· != '['), s.dropWhile (· != '['))

def ofLine (text : String) : Except TraceError (Option TraceFact) :=
  let trimmed := trim text.toList
  let line := String.ofList trimmed
  match (words trimmed).head?.bind readUInt64, dollarParts trimmed with
  | some testId, some (globalId, rest) =>
    let globalId := String.ofList globalId
    let (kind, payload) := kindAndPayload (trim rest)
    if kind = ['r', 'o', 'o', 't'] then .ok (some ⟨testId, ⟨globalId, 0⟩, .zero⟩)
    else if kind = ['b', 'r', 'a', 'n', 'c', 'h'] then
      match readPayload payload with
      | some (index, distance) => .ok (some ⟨testId, ⟨globalId, index⟩, distance⟩)
      | none => .error (.malformedPayload line)
    else .error (.unknownKind (String.ofList kind) line)
  | _, _ => .ok none

def agrees (a b : TraceFact) : Bool :=
  a.testId == b.testId && a.block == b.block && a.distance.numEq b.distance

end TraceFact
end UnitTestGen
