import UnitTestGen.Host.Basic
import UnitTestGen.Trace.Decode

/-! The channel by which tests report facts: written line by line, emptied before a traced run, and
drained once after it. One store keeps its lines in memory, another in a file that the tests find
through their environment. -/

namespace UnitTestGen

class TraceStore (m : Type → Type) (σ : Type) where
  clear : σ → m (Except StoreError Unit × σ)
  publish : σ → TraceFact → m (Except StoreError Unit × σ)
  /-- Takes the facts published since the store was cleared. -/
  drain : σ → m (Except StoreError Traces × σ)
  env : σ → List (String × String)

structure MemoryStore where
  lines : List String

namespace MemoryStore

def empty : MemoryStore := ⟨[]⟩

def pushLine (s : MemoryStore) (line : String) : MemoryStore := ⟨s.lines ++ [line]⟩

def drained (s : MemoryStore) : Except StoreError Traces :=
  match Traces.ofLines s.lines with
  | .ok traces => .ok traces
  | .error e => .error (.trace e)

instance {m : Type → Type} [Monad m] : TraceStore m MemoryStore where
  clear _ := pure (.ok (), empty)
  publish s f := pure (.ok (), s.pushLine f.line)
  drain s := pure (s.drained, empty)
  env _ := []

end MemoryStore

structure FileStore where
  path : String

namespace FileStore

def envName : String := "RU_TRACE_FILE"

variable {m : Type → Type} [Monad m] [Host m]

/-- Removes the file; one that does not exist is cleared already. -/
def clear (s : FileStore) : m (Except StoreError Unit) := do
  match ← Host.removeFile s.path with
  | .ok () => pure (.ok ())
  | .error .notFound => pure (.ok ())
  | .error e => pure (.error (.io e))

def publish (s : FileStore) (f : TraceFact) : m (Except StoreError Unit) := do
  match ← Host.appendFile s.path (f.line ++ "\n").toUTF8 with
  | .ok () => pure (.ok ())
  | .error e => pure (.error (.io e))

/-- Reads the traces and removes the file, which stays if it cannot be read. -/
def drain (s : FileStore) : m (Except StoreError Traces) := do
  if ← Host.pathExists s.path then
    match ← readText s.path with
    | .error e => pure (.error (.io e))
    | .ok text =>
      match Traces.ofText text with
      | .error e => pure (.error (.trace e))
      | .ok traces =>
        match ← s.clear with
        | .ok () => pure (.ok traces)
        | .error e => pure (.error e)
  else pure (.ok ∅)

instance : TraceStore m FileStore where
  clear s := do pure (← s.clear, s)
  publish s f := do pure (← s.publish f, s)
  drain s := do pure (← s.drain, s)
  env s := [(envName, s.path)]

end FileStore
end UnitTestGen
