import UnitTestGen.App.Config
import UnitTestGen.CoverageFormat
import UnitTestGen.Exec.Runner
import UnitTestGen.Registry.Query

/-! The commands of the program, each with a report that can be written as JSON. -/

namespace UnitTestGen

structure TestTrace where
  testId : UInt64
  covered : Nat
  blocks : List (Block × Binary64)

namespace TestTrace

def ofCoverage (testId : UInt64) (coverage : Coverage) : TestTrace :=
  ⟨testId, coverage.coveredBlocks, coverage.toList⟩

def toJson (t : TestTrace) : Json :=
  .obj [("test_id", .ofNat t.testId.toNat), ("covered", .ofNat t.covered),
    ("blocks", .arr (t.blocks.map fun (b, d) =>
      .obj [("global_id", .str b.globalId), ("block_id", .ofNat b.blockId.toNat),
        ("distance", .ofFloat d)]))]

end TestTrace

structure TypeEntry where
  ty : Ty
  generators : Nat
  wrappingGenerators : Nat

structure TypesReport where
  callables : Nat
  types : List TypeEntry

namespace TypesReport

def ofRegistry (r : Registry) : TypesReport where
  callables := r.callables.length
  types := r.table.types.map fun t =>
    ⟨t, (r.generatorsOf t none).length, (r.wrappingGeneratorsOf t none).length⟩

def toJson (r : TypesReport) : Json :=
  .obj [("callables", .ofNat r.callables), ("types", .arr (r.types.map fun e =>
    .obj [("ty", .str e.ty.text), ("generators", .ofNat e.generators),
      ("wrapping_generators", .ofNat e.wrappingGenerators)]))]

end TypesReport

namespace Commands

variable {m : Type → Type} [Monad m] [Host m]

def coverage (config : AppConfig) (crateDir : String) : m (Except Failure CoverageSummary) := do
  let (result, _) ← (Runner.new config.runner).runAt crateDir
  pure (result.mapError fun e => ⟨["Coverage run failed for " ++ crateDir], .exec e⟩)

def decode (traceFile : String) : m (Except Failure (List TestTrace)) := do
  match ← readText traceFile with
  | .error e => pure (.error ⟨["Failed to read " ++ traceFile], .io e⟩)
  | .ok text =>
    match Traces.ofText text with
    | .error e => pure (.error ⟨["Malformed trace file " ++ traceFile], .trace e⟩)
    | .ok traces => pure (.ok (traces.toList.map fun (id, cov) => .ofCoverage id cov))

def types (callablesFile : String) (seed : UInt64) : m (Except Failure TypesReport) := do
  match ← loadCallables callablesFile with
  | .error e => pure (.error ⟨[], .load e⟩)
  | .ok callables => pure (.ok (.ofRegistry (.ofCallables callables seed)))

end Commands
end UnitTestGen
