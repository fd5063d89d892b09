import UnitTestGen.Text.Numeral
import UnitTestGen.Text.Search

/-! The command line. Options are written with their value behind an equals sign or as the next
argument, which then does not start with a dash unless it is a single one. A command takes one path,
and after two dashes every argument counts as one. Each option is given at most once, but the
configuration file may be named both before and after the command, and the latter counts. -/

namespace UnitTestGen

inductive Request where
  | coverage (crateDir : String) (features outputDir : Option String) (run : Option Nat)
  | decode (traceFile : String)
  | types (callablesFile : String) (seed : Option UInt64)
  deriving DecidableEq

structure Arguments where
  config : Option String
  request : Request
  deriving DecidableEq

namespace Arguments

abbrev Options := List (String × String)

inductive Item where
  | option (name : String) (value : Option String)
  | dashes
  | word (s : String)
  /-- A dash with anything else behind it. -/
  | unknown

def classify (arg : String) : Item :=
  match arg.toList with
  | ['-', '-'] => .dashes
  | '-' :: '-' :: rest =>
    match Text.cut ['='] rest with
    | some (name, value) => .option (String.ofList name) (some (String.ofList value))
    | none => .option (String.ofList rest) none
  | ['-'] => .word arg
  | '-' :: _ => .unknown
  | _ => .word arg

def takeOptions (names : List String) : List String → Option (Options × List String)
  | [] => some ([], [])
  | arg :: rest =>
    match classify arg with
    | .option name value =>
      if names.contains name then
        match value, rest with
        | some value, rest => do
          let (options, rest) ← takeOptions names rest
          some ((name, value) :: options, rest)
        | none, next :: rest =>
          match classify next with
          | .word value => do
            let (options, rest) ← takeOptions names rest
            some ((name, value) :: options, rest)
          | _ => none
        | none, [] => none
      else none
    | .word _ => some ([], arg :: rest)
    | .dashes => some ([], arg :: rest)
    | .unknown => none

def readCommand (names : List String) (args : List String) : Option (Options × String) := do
  let (before, rest) ← takeOptions names args
  match rest with
  | [] => none
  | arg :: rest =>
    match classify arg with
    | .dashes =>
      match rest with
      | [path] => some (before, path)
      | _ => none
    | _ =>
      let (after, rest) ← takeOptions names rest
      if rest = [] ∨ rest = ["--"] then some (before ++ after, arg) else none

def single (options : Options) (name : String) : Option (Option String) :=
  match options.filter (·.1 == name) with
  | [] => some none
  | [(_, value)] => some (some value)
  | _ => none

def parsed {α : Type} (read : String → Option α) (options : Options) (name : String) :
    Option (Option α) := do
  match ← single options name with
  | none => some none
  | some value => (read value).map some

def path? (s : String) : Option String := if s.isEmpty then none else some s

def seed? (s : String) : Option UInt64 := Text.readUInt64 s.toList

def run? (s : String) : Option Nat := do
  let n ← Text.readSigned (2 ^ 63) s.toList
  if 0 ≤ n ∧ n < UInt32.size then some n.toNat else none

def optionNames : String → Option (List String)
  | "coverage" => some ["features", "output-dir", "run"]
  | "decode" => some []
  | "types" => some ["seed"]
  | _ => none

def request? (command : String) (options : Options) (path : String) : Option Request := do
  let path ← path? path
  match command with
  | "coverage" =>
    let features ← single options "features"
    let outputDir ← parsed path? options "output-dir"
    let run ← parsed run? options "run"
    some (.coverage path features outputDir run)
  | "decode" => some (.decode path)
  | "types" => some (.types path (← parsed seed? options "seed"))
  | _ => none

def ofList (args : List String) : Option Arguments := do
  let (global, rest) ← takeOptions ["config"] args
  match rest with
  | [] => none
  | command :: rest =>
    let names ← optionNames command
    let (options, path) ← readCommand ("config" :: names) rest
    let outer ← parsed path? global "config"
    let inner ← parsed path? options "config"
    let request ← request? command options path
    some { config := inner <|> outer, request }

end Arguments
end UnitTestGen
