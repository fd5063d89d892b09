import UnitTestGen.App.Program

/-! The program on a real machine. Files are read and written, but directories are not listed and no
programs are started: a request for these is answered as unsupported. -/

namespace UnitTestGen

namespace Machine

def fault : IO.Error → IoFault
  | .noFileOrDirectory _ _ _ => .notFound
  | .permissionDenied _ _ _ => .permissionDenied
  | .alreadyExists _ _ _ => .alreadyExists
  | .inappropriateType _ _ _ => .isADirectory
  | .unsupportedOperation _ _ => .unsupported
  | _ => .other

def attempt {α : Type} (act : IO α) : IO (Except IoFault α) := do
  try return .ok (← act)
  catch e => return .error (fault e)

def succeeds {α : Type} (act : IO α) : IO Bool := do
  match ← attempt act with
  | .ok _ => return true
  | .error _ => return false

def append (path : String) (bytes : ByteArray) : IO Unit := do
  let handle ← IO.FS.Handle.mk path .append
  handle.write bytes

def exists? (path : String) : IO Bool := succeeds (IO.FS.realPath path)

/-- Only a directory has an entry for itself. -/
def isDir (path : String) : IO Bool := succeeds (IO.FS.realPath (path ++ "/."))

instance : Host IO where
  readFile path := attempt (IO.FS.readBinFile path)
  writeFile path bytes := attempt (IO.FS.writeBinFile path bytes)
  appendFile path bytes := attempt (append path bytes)
  removeFile path := attempt (IO.FS.removeFile path)
  createDirs path := attempt (IO.FS.createDirAll path)
  listDir _ := pure (.error .unsupported)
  isDir path := isDir path
  isFile path := return (← exists? path) && !(← isDir path)
  pathExists path := exists? path
  currentDir := attempt do return (← IO.currentDir).toString
  now := IO.monoMsNow
  run _ := pure (.error .unsupported)

def environment : IO RunnerConfig.Lookup := do
  let values ← RunnerConfig.envNames.filterMapM fun name => do
    return (← IO.getEnv name).map (name, ·)
  return fun name => values.lookup name

end Machine
end UnitTestGen

open UnitTestGen in
def main (args : List String) : IO UInt32 := do
  let ending ← Program.run args (← Machine.environment)
  if let some text := ending.output then IO.print text
  match ending with
  | .report _ => pure ()
  | .failed f => IO.eprintln f.message
  | .usage => IO.eprintln Program.usageText
  return UInt32.ofNat ending.exitCode
