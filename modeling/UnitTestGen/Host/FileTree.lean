import Std.Data.ExtTreeMap
import UnitTestGen.Host.Basic

/-! A file system in memory. A path is followed name by name: every name but the last has to lead to
a directory that is there, two dots lead back to the directory above, and what the last name may be
depends on the operation. Operations fail as they do on a disk. -/

namespace UnitTestGen

inductive Node where
  | file (bytes : ByteArray)
  | dir

/-- Files and directories by the names on the way from the root, which is not listed itself. -/
abbrev FileTree := Std.ExtTreeMap (List String) Node

/-- Where a path leads: to a directory, if it ends in dots or is the root, and otherwise to a name in
a directory, under which there may be nothing yet. -/
structure Place where
  directory : List String
  name : Option String
  /-- A slash stands behind the name, under which there can only be a directory then. -/
  slash : Bool
  deriving DecidableEq

namespace FileTree

def nameLimit : Nat := 255

def pathLimit : Nat := 4096

def enter (t : FileTree) (d : List String) (name : String) : Except IoFault (List String) :=
  if name = "." then .ok d
  else if name = ".." then .ok d.dropLast
  else if nameLimit < name.utf8ByteSize then .error .invalidFilename
  else
    match t[d ++ [name]]? with
    | some .dir => .ok (d ++ [name])
    | some (.file _) => .error .notADirectory
    | none => .error .notFound

def walk (t : FileTree) (d : List String) (names : List String) :
    Except IoFault (List String × Option String) :=
  match names.getLast? with
  | none => .ok (d, none)
  | some last =>
    if last = "." ∨ last = ".." then (names.foldlM t.enter d).map (·, none)
    else do
      let d ← names.dropLast.foldlM t.enter d
      if nameLimit < last.utf8ByteSize then .error .invalidFilename else .ok (d, some last)

def locate (t : FileTree) (d : List String) (path : String) : Except IoFault Place :=
  if Path.holdsNul path then .error .invalidInput
  else if path.isEmpty then .error .notFound
  else if pathLimit ≤ path.utf8ByteSize then .error .invalidFilename
  else do
    let (directory, name) ← t.walk (if Path.isAbsolute path then [] else d) (Path.names path)
    .ok ⟨directory, name, path.toList.getLast? == some '/'⟩

def nodeAt (t : FileTree) (p : Place) : Except IoFault (List String × Node) :=
  match p.name with
  | none => .ok (p.directory, .dir)
  | some name =>
    match t[p.directory ++ [name]]? with
    | some (.file bytes) =>
      if p.slash then .error .notADirectory else .ok (p.directory ++ [name], .file bytes)
    | some .dir => .ok (p.directory ++ [name], .dir)
    | none => .error .notFound

def find (t : FileTree) (d : List String) (path : String) : Except IoFault (List String × Node) := do
  t.nodeAt (← t.locate d path)

def findDir (t : FileTree) (d : List String) (path : String) : Except IoFault (List String) :=
  match t.find d path with
  | .ok (full, .dir) => .ok full
  | .ok (_, .file _) => .error .notADirectory
  | .error e => .error e

def isDir (t : FileTree) (d : List String) (path : String) : Bool :=
  match t.find d path with
  | .ok (_, .dir) => true
  | _ => false

def isFile (t : FileTree) (d : List String) (path : String) : Bool :=
  match t.find d path with
  | .ok (_, .file _) => true
  | _ => false

def pathExists (t : FileTree) (d : List String) (path : String) : Bool :=
  match t.find d path with
  | .ok _ => true
  | .error _ => false

def read (t : FileTree) (d : List String) (path : String) : Except IoFault ByteArray :=
  match t.find d path with
  | .ok (_, .file bytes) => .ok bytes
  | .ok (_, .dir) => .error .isADirectory
  | .error e => .error e

def update (t : FileTree) (d : List String) (path : String) (f : ByteArray → ByteArray) :
    Except IoFault FileTree := do
  let p ← t.locate d path
  match p.name with
  | none => .error .isADirectory
  | some name =>
    let full := p.directory ++ [name]
    if p.slash then .error .isADirectory
    else
      match t[full]? with
      | some .dir => .error .isADirectory
      | some (.file bytes) => .ok (t.insert full (.file (f bytes)))
      | none => .ok (t.insert full (.file (f ByteArray.empty)))

def remove (t : FileTree) (d : List String) (path : String) : Except IoFault FileTree :=
  match t.find d path with
  | .ok (full, .file _) => .ok (t.erase full)
  | .ok (_, .dir) => .error .isADirectory
  | .error e => .error e

def makeDir (t : FileTree) (d : List String) (path : String) : Except IoFault FileTree := do
  let p ← t.locate d path
  match p.name with
  | none => .error .alreadyExists
  | some name =>
    let full := p.directory ++ [name]
    if t.contains full then .error .alreadyExists else .ok (t.insert full .dir)

def ensureDir (t : FileTree) (d : List String) (path : String) : Except IoFault FileTree :=
  match t.makeDir d path with
  | .ok t => .ok t
  | .error e => if t.isDir d path then .ok t else .error e

/-- The tree with a directory, given by its path and the paths above it, the nearest first. Those
above are made only if the path cannot be reached without. -/
def makeDirs (t : FileTree) (d : List String) : List String → Except IoFault FileTree
  | [] => .ok t
  | path :: above =>
    match t.ensureDir d path with
    | .error .notFound => do (← t.makeDirs d above).ensureDir d path
    | result => result

def entries (t : FileTree) (d : List String) (path : String) : Except IoFault (List String) := do
  let full ← t.findDir d path
  .ok (t.keys.filterMap fun q =>
    if q.length = full.length + 1 ∧ q.take full.length = full then q.getLast? else none)

def removeAll (t : FileTree) (d : List String) (path : String) : FileTree :=
  match t.find d path with
  | .ok (full, _) => t.filter fun q _ => !full.isPrefixOf q
  | .error _ => t

def put (t : FileTree) (d : List String) (path : String) (bytes : ByteArray) : FileTree :=
  let made := do (← t.makeDirs d (Path.ancestors path).tail).update d path fun _ => bytes
  match made with
  | .ok t => t
  | .error _ => t

end FileTree

structure Started where
  command : Command
  directory : List String

/-- What the programs of a sandbox do: a function of what is started and of the files they find. -/
abbrev Tools := Started → FileTree → Except IoFault (Outcome × FileTree)

structure Sandbox where
  files : FileTree
  directory : List String
  clock : Nat
  tools : Tools
  started : List Started

namespace Sandbox

def change (f : FileTree → List String → Except IoFault FileTree) :
    StateM Sandbox (Except IoFault Unit) := do
  let s ← get
  match f s.files s.directory with
  | .ok files => set { s with files }; pure (.ok ())
  | .error e => pure (.error e)

def look {α : Type} (f : FileTree → List String → α) : StateM Sandbox α := do
  let s ← get
  pure (f s.files s.directory)

def deliver (s : Sandbox) (sink : Sink) (bytes : ByteArray) : Sandbox :=
  match sink with
  | .appended path =>
    if s.files.isFile s.directory path then
      match s.files.update s.directory path (· ++ bytes) with
      | .ok files => { s with files }
      | .error _ => s
    else s
  | _ => s

def keep (sink : Sink) (bytes : ByteArray) : ByteArray :=
  if sink = .captured then bytes else ByteArray.empty

def runCommand (c : Command) : StateM Sandbox (Except IoFault Outcome) := do
  let s ← get
  if c.holdsNul then pure (.error .invalidInput)
  else
    match s.files.findDir s.directory c.directory with
    | .error e => pure (.error e)
    | .ok directory =>
      match s.tools ⟨c, directory⟩ s.files with
      | .error e => pure (.error e)
      | .ok (o, files) =>
        let s := { s with files, started := s.started ++ [Started.mk c directory] }
        set ((s.deliver c.stdout o.stdout).deliver c.stderr o.stderr)
        pure (.ok { o with stdout := keep c.stdout o.stdout, stderr := keep c.stderr o.stderr })

instance : Host (StateM Sandbox) where
  readFile path := look (·.read · path)
  writeFile path bytes := change (·.update · path fun _ => bytes)
  appendFile path bytes := change (·.update · path (· ++ bytes))
  removeFile path := change (·.remove · path)
  createDirs path := change (·.makeDirs · (Path.ancestors path))
  listDir path := look (·.entries · path)
  isDir path := look (·.isDir · path)
  isFile path := look (·.isFile · path)
  pathExists path := look (·.pathExists · path)
  currentDir := look fun _ d => .ok ("/" ++ "/".intercalate d)
  now := modifyGet fun s => (s.clock, { s with clock := s.clock + 1 })
  run := runCommand

end Sandbox
end UnitTestGen
