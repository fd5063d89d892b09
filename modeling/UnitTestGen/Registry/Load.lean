import UnitTestGen.Callable.Format
import UnitTestGen.Host.Basic

/-! Callables from a file that an analysis of the crate has written. -/

namespace UnitTestGen

inductive LoadError where
  | read (fault : IoFault)
  | parse
  deriving DecidableEq

def loadCallables {m : Type → Type} [Monad m] [Host m] (path : String) :
    m (Except LoadError (List Callable)) := do
  match ← readText path with
  | .error e => pure (.error (.read e))
  | .ok text =>
    match Callable.listOfText text with
    | some callables => pure (.ok callables)
    | none => pure (.error .parse)

end UnitTestGen
