import UnitTestGen.Host.Basic
import UnitTestGen.TestCase.Render

/-! A population of tests and the crate that holds it. The generated module stands at the end of a
source file of the crate between two marker lines; writing a population replaces what was between
them, and clearing takes it out again. -/

namespace UnitTestGen

class Chromosome (γ : Type) where
  id : γ → UInt64
  setCoverage : γ → Coverage → γ
  setFails : γ → Bool → γ

instance : Chromosome TestCase where
  id tc := tc.id
  setCoverage tc coverage := { tc with coverage }
  setFails tc fails := { tc with fails }

/-- A crate under test with the population that is written into it. -/
class Container (m : Type → Type) (κ : Type) (γ : outParam Type) where
  path : κ → String
  name : κ → String
  chromosomes : κ → List γ
  withChromosomes : κ → List γ → κ
  refresh : κ → m (Except ExecError Unit × κ)

namespace Marker

def start : String := "// rusty-unit: generated tests begin"

def stop : String := "// rusty-unit: generated tests end"

/-- The source without the generated block: from the first start marker through the first end
marker, if they stand in this order. -/
def strip (source : List Char) : List Char :=
  match Text.cut start.toList source, Text.cut stop.toList source with
  | some (before, _), some (upTo, after) =>
    if before.length < upTo.length then
      Text.trimEnd before ++ '\n' :: after.dropWhile (· == '\n')
    else source
  | _, _ => source

def place (source generated : List Char) : List Char :=
  Text.trimEnd (strip source) ++ "\n\n".toList ++ start.toList ++ '\n' :: generated ++
    stop.toList ++ ['\n']

end Marker

/-- A crate whose generated module is kept in one of its source files. -/
structure SourceContainer where
  crateRoot : String
  crateName : String
  file : String
  testModule : String
  chromosomes : List TestCase

namespace SourceContainer

def sourcePath (k : SourceContainer) : String := Path.join k.crateRoot k.file

def refreshed (k : SourceContainer) (source : String) : String :=
  String.ofList (Marker.place source.toList (testModuleText k.testModule k.chromosomes).toList)

def cleared (source : String) : String := String.ofList (Marker.strip source.toList)

variable {m : Type → Type} [Monad m] [Host m]

def refresh (k : SourceContainer) : m (Except ExecError Unit) := do
  match ← readText k.sourcePath with
  | .error e => pure (.error (.io e))
  | .ok source =>
    match ← Host.writeFile k.sourcePath (k.refreshed source).toUTF8 with
    | .error e => pure (.error (.io e))
    | .ok () => pure (.ok ())

/-- Takes the generated module out of the file, which is written only if it changes in length. -/
def clear (k : SourceContainer) : m (Except ExecError Unit) := do
  match ← readText k.sourcePath with
  | .error e => pure (.error (.io e))
  | .ok source =>
    let stripped := cleared source
    if stripped.utf8ByteSize = source.utf8ByteSize then pure (.ok ())
    else
      match ← Host.writeFile k.sourcePath stripped.toUTF8 with
      | .error e => pure (.error (.io e))
      | .ok () => pure (.ok ())

instance : Container m SourceContainer TestCase where
  path k := k.crateRoot
  name k := k.crateName
  chromosomes k := k.chromosomes
  withChromosomes k chromosomes := { k with chromosomes }
  refresh k := do pure (← k.refresh, k)

end SourceContainer
end UnitTestGen
