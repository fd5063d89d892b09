import UnitTestGen.Registry.Load

/-! Why a command failed: a cause, and what was being done when it arose, the widest task first. -/

namespace UnitTestGen

inductive Cause where
  | io (fault : IoFault)
  | toml
  | load (error : LoadError)
  | trace (error : TraceError)
  | exec (error : ExecError)
  deriving DecidableEq

structure Failure where
  context : List String
  cause : Cause
  deriving DecidableEq

namespace Failure

def message (f : Failure) : String :=
  let cause := match f.cause with
    | .trace e => [e.message]
    | .exec e => e.message.toList
    | .io _ | .toml | .load _ => []
  ": ".intercalate ("error" :: f.context ++ cause)

end Failure
end UnitTestGen
