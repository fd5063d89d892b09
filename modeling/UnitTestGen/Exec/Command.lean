import UnitTestGen.Exec.Config
import UnitTestGen.Host.Basic

/-! The programs that a cycle starts, as functions of the settings and of the crate. The output of
the tests and what programs report as errors is added to two log files. -/

namespace UnitTestGen
namespace RunnerConfig

variable (c : RunnerConfig)

def testsLog : String := Path.join c.outputDir "tests.log"

def testsError : String := Path.join c.outputDir "tests.error"

def coveragePath (root : String) : String := Path.join root c.coverageDir

def profilePath (root : String) : String := Path.join (c.coveragePath root) "rusty-tests.profdata"

def testArgs : List String := "test" :: c.testModule :: c.featureArgs

def collectCommand (root : String) : Command where
  stage := .collect
  program := c.cargo
  args := c.testArgs
  directory := root
  env := [("RUSTFLAGS", "-C instrument-coverage"),
    ("LLVM_PROFILE_FILE", Path.join (c.coveragePath root) "rusty-test-%m.profraw")]
  stdout := .appended c.testsLog
  stderr := .appended c.testsError

def mergeCommand (root : String) (profiles : List String) : Command where
  stage := .merge
  program := c.cargo
  args := ["profdata", "--", "merge", "-sparse"] ++ profiles ++ ["-o", c.profilePath root]
  directory := root
  env := []
  stdout := .appended c.testsLog
  stderr := .appended c.testsError

def reportCommand (root script : String) : Command where
  stage := .report
  program := script
  args := [c.profilePath root]
  directory := root
  env := []
  stdout := .captured
  stderr := .appended c.testsError

def instrumentCommand (root : String) (env : List (String × String)) : Command where
  stage := .instrument
  program := c.cargo
  args := c.instrumentationSubcommand :: c.featureArgs
  directory := root
  env
  stdout := .discarded
  stderr := .captured

def tracedTestCommand (root : String) (env : List (String × String)) : Command where
  stage := .tracedTest
  program := c.cargo
  args := c.testArgs
  directory := root
  env
  stdout := .captured
  stderr := .appended c.testsError

def instrumentationEnv (crateName root : String) : List (String × String) :=
  [("RU_STAGE", "instrumentation"), ("RU_CRATE_NAME", crateName), ("RU_CRATE_ROOT", root),
    ("RU_RUN", toString c.run), ("RUST_LOG", c.logLevel)]

end RunnerConfig
end UnitTestGen
