import UnitTestGen.App.Failure
import UnitTestGen.Exec.Config
import UnitTestGen.Toml.Reader

/-! The configuration of the program: a TOML file, over which the environment goes. -/

namespace UnitTestGen

structure AppConfig where
  runner : RunnerConfig := {}
  seed : UInt64 := 0
  deriving DecidableEq

namespace RunnerConfig

def ofToml (t : Toml) : Option RunnerConfig :=
  (Toml.fields? fieldNames t).bind (ofFields Toml.asString (Toml.asNat UInt32.size))

end RunnerConfig

namespace AppConfig

def ofToml (t : Toml) : Option AppConfig := do
  let field ← Toml.fields? ["runner", "seed"] t
  let runner ← match field "runner" with
    | none => some {}
    | some v => RunnerConfig.ofToml v
  let seed ← match field "seed" with
    | none => some 0
    | some v => (Toml.asNat UInt64.size v).map UInt64.ofNat
  some { runner, seed }

def ofText (text : String) : Option AppConfig := (Toml.ofText text).bind ofToml

variable {m : Type → Type} [Monad m] [Host m]

def ofFile (path : String) : m (Except Failure AppConfig) := do
  match ← readText path with
  | .error e => pure (.error ⟨["Failed to read " ++ path], .io e⟩)
  | .ok text =>
    match ofText text with
    | some c => pure (.ok c)
    | none => pure (.error ⟨["Invalid config " ++ path, "Failed to parse config TOML"], .toml⟩)

def load (path : Option String) (lookup : RunnerConfig.Lookup) : m (Except Failure AppConfig) := do
  let c ← match path with
    | some path => ofFile path
    | none => pure (.ok {})
  pure (c.map fun c => { c with runner := c.runner.withEnv lookup })

end AppConfig
end UnitTestGen
