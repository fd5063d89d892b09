import UnitTestGen.Exec.Error

/-! What a cycle asks of its surroundings: files, programs, the working directory and the time. A
monad that answers these requests can run a cycle; every statement that holds for all of them holds
for every behaviour of the file system and of the programs. -/

namespace UnitTestGen

inductive Sink where
  | inherited
  | discarded
  | captured
  | appended (path : String)
  deriving DecidableEq

structure Command where
  stage : Stage
  program : String
  args : List String
  directory : String
  env : List (String × String)
  stdout : Sink
  stderr : Sink
  deriving DecidableEq

/-- How a program ended, without an exit code if a signal ended it, and its captured output. -/
structure Outcome where
  exitCode : Option Int
  stdout : ByteArray
  stderr : ByteArray

namespace Outcome

def succeeded (o : Outcome) : Bool := o.exitCode == some 0

end Outcome

class Host (m : Type → Type) where
  readFile : String → m (Except IoFault ByteArray)
  /-- Replaces the content of a file, which is made if it does not exist. -/
  writeFile : String → ByteArray → m (Except IoFault Unit)
  appendFile : String → ByteArray → m (Except IoFault Unit)
  removeFile : String → m (Except IoFault Unit)
  /-- Makes a directory and those above it as far as they do not exist. -/
  createDirs : String → m (Except IoFault Unit)
  listDir : String → m (Except IoFault (List String))
  isDir : String → m Bool
  isFile : String → m Bool
  pathExists : String → m Bool
  currentDir : m (Except IoFault String)
  /-- Milliseconds since the epoch. -/
  now : m Nat
  run : Command → m (Except IoFault Outcome)

abbrev Host.lifted {m n : Type → Type} [MonadLiftT m n] [Host m] : Host n where
  readFile path := liftM (Host.readFile (m := m) path)
  writeFile path bytes := liftM (Host.writeFile (m := m) path bytes)
  appendFile path bytes := liftM (Host.appendFile (m := m) path bytes)
  removeFile path := liftM (Host.removeFile (m := m) path)
  createDirs path := liftM (Host.createDirs (m := m) path)
  listDir path := liftM (Host.listDir (m := m) path)
  isDir path := liftM (Host.isDir (m := m) path)
  isFile path := liftM (Host.isFile (m := m) path)
  pathExists path := liftM (Host.pathExists (m := m) path)
  currentDir := liftM (Host.currentDir (m := m))
  now := liftM (Host.now (m := m))
  run command := liftM (Host.run (m := m) command)

instance {σ : Type} {m : Type → Type} [Monad m] [Host m] : Host (StateT σ m) := Host.lifted (m := m)

instance {ε : Type} {m : Type → Type} [Monad m] [Host m] : Host (ExceptT ε m) :=
  Host.lifted (m := m)

namespace Path

def isAbsolute (path : String) : Bool := path.toList.head? == some '/'

def join (base path : String) : String :=
  if isAbsolute path || base.isEmpty then path
  else if base.toList.getLast? == some '/' then base ++ path
  else base ++ "/" ++ path

def names (path : String) : List String :=
  ((Text.pieces '/' path.toList).filter (!·.isEmpty)).map String.ofList

/-- A path and the paths above it, the nearest first. A relative path ends with its first name, and
the empty one has no paths at all. -/
def ancestors (path : String) : List String :=
  let names := (names path).filter (· != ".")
  let above := (List.range names.length).reverse.map fun n => "/".intercalate (names.take n)
  if path.isEmpty then []
  else path :: if isAbsolute path then above.map ("/" ++ ·) else above.filter (!·.isEmpty)

def holdsNul (text : String) : Bool := text.toList.contains '\x00'

def hasExtension (name extension : String) : Bool :=
  match Text.cutLast ['.'] name.toList with
  | some (stem, rest) => !stem.isEmpty && rest == extension.toList
  | none => false

end Path

namespace Command

def holdsNul (c : Command) : Bool :=
  Path.holdsNul c.program || c.args.any Path.holdsNul || Path.holdsNul c.directory ||
    c.env.any fun (name, value) => Path.holdsNul name || Path.holdsNul value

def programName (c : Command) : String :=
  if Path.holdsNul c.program then "<string-with-nul>" else c.program

end Command

def readText {m : Type → Type} [Monad m] [Host m] (path : String) : m (Except IoFault String) := do
  match ← Host.readFile path with
  | .error e => pure (.error e)
  | .ok bytes =>
    match String.fromUTF8? bytes with
    | some text => pure (.ok text)
    | none => pure (.error .invalidData)

end UnitTestGen
