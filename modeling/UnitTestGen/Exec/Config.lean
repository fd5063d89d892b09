import UnitTestGen.Json.Decode
import UnitTestGen.Json.Reader
import UnitTestGen.Json.Canonical
import UnitTestGen.Text.Blank

/-! The settings of a runner: defaults, JSON form, and the environment variables that override
them. -/

namespace UnitTestGen

structure RunnerConfig where
  cargo : String := "cargo"
  /-- The features given to the build tool, separated by commas. -/
  features : String := ""
  testModule : String := "rusty_tests"
  /-- Where coverage files are written, seen from the crate root. -/
  coverageDir : String := "coverage"
  outputDir : String := "."
  reportScript : String := "scripts/coverage-report.sh"
  instrumentationSubcommand : String := "instrumentation"
  /-- The number of the run, below `2 ^ 32`. -/
  run : Nat := 0
  logLevel : String := "info"
  deriving DecidableEq

namespace RunnerConfig

abbrev Lookup := String → Option String

def envNames : List String :=
  ["RU_CARGO", "RU_FEATURES", "RU_OUTPUT_DIR", "RU_REPORT_SCRIPT", "RU_RUN"]

/-- The settings with those that the environment gives; a run number that is none is passed over. -/
def withEnv (c : RunnerConfig) (lookup : Lookup) : RunnerConfig :=
  { c with
    cargo := (lookup "RU_CARGO").getD c.cargo
    features := (lookup "RU_FEATURES").getD c.features
    outputDir := (lookup "RU_OUTPUT_DIR").getD c.outputDir
    reportScript := (lookup "RU_REPORT_SCRIPT").getD c.reportScript
    run := ((lookup "RU_RUN").bind fun s =>
      Text.readUnsigned UInt32.size (Text.trim s.toList)).getD c.run }

def ofEnv (lookup : Lookup) : RunnerConfig := withEnv {} lookup

def withFeatures (c : RunnerConfig) (features : String) : RunnerConfig := { c with features }

def withOutputDir (c : RunnerConfig) (outputDir : String) : RunnerConfig := { c with outputDir }

def withRun (c : RunnerConfig) (run : Nat) : RunnerConfig := { c with run }

def featureArgs (c : RunnerConfig) : List String :=
  if (Text.trim c.features.toList).isEmpty then [] else ["--features", c.features]

def fieldNames : List String :=
  ["cargo", "features", "test_module", "coverage_dir", "output_dir", "report_script",
    "instrumentation_subcommand", "run", "log_level"]

def toJson (c : RunnerConfig) : Json :=
  .obj [("cargo", .str c.cargo), ("features", .str c.features), ("test_module", .str c.testModule),
    ("coverage_dir", .str c.coverageDir), ("output_dir", .str c.outputDir),
    ("report_script", .str c.reportScript),
    ("instrumentation_subcommand", .str c.instrumentationSubcommand), ("run", .ofNat c.run),
    ("log_level", .str c.logLevel)]

def ofFields {α : Type} (asString : α → Option String) (asRun : α → Option Nat)
    (field : String → Option α) : Option RunnerConfig := do
  let d : RunnerConfig := {}
  let text (name default : String) : Option String :=
    match field name with
    | none => some default
    | some v => asString v
  let cargo ← text "cargo" d.cargo
  let features ← text "features" d.features
  let testModule ← text "test_module" d.testModule
  let coverageDir ← text "coverage_dir" d.coverageDir
  let outputDir ← text "output_dir" d.outputDir
  let reportScript ← text "report_script" d.reportScript
  let instrumentationSubcommand ← text "instrumentation_subcommand" d.instrumentationSubcommand
  let run ← match field "run" with
    | none => some d.run
    | some v => asRun v
  let logLevel ← text "log_level" d.logLevel
  some { cargo, features, testModule, coverageDir, outputDir, reportScript,
         instrumentationSubcommand, run, logLevel }

def ofJson (j : Json) : Option RunnerConfig :=
  (Json.fields? fieldNames j).bind (ofFields Json.asString (Json.asNat UInt32.size))

def ofText (text : String) : Option RunnerConfig := (Json.ofText text).bind ofJson

end RunnerConfig
end UnitTestGen
