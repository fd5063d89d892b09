import UnitTestGen.Callable.Builtin
import UnitTestGen.Registry.Shuffle
import UnitTestGen.Ty.Binding

/-! The registry of a session: the working list of callables, in an order fixed by a seed, and the
table of the types that their signatures mention. -/

namespace UnitTestGen

structure Registry where
  table : TypeTable
  callables : List Callable

namespace Callable

/-- Whether the callable returns a vector or an option without any element type. -/
def returnsBareContainer (c : Callable) : Bool :=
  c.returnsValue && c.returnType.any fun ret =>
    (ret.name == some Builtin.vecPath || ret.name == some Builtin.optionPath) &&
      ret.generics.isEmpty

def signatureTypes (c : Callable) : List Ty :=
  c.parent.toList ++ c.params.map (·.ty) ++ c.returnType.toList

end Callable

def keepFirst {α : Type} [DecidableEq α] : List α → List α
  | [] => []
  | a :: as => a :: (keepFirst as).filter (· ≠ a)

theorem nodup_keepFirst {α : Type} [DecidableEq α] (as : List α) : (keepFirst as).Nodup := by
  induction as with
  | nil => simp [keepFirst]
  | cons a as ih =>
    simp only [keepFirst, List.nodup_cons, List.mem_filter, ne_eq, not_true_eq_false,
      decide_false, Bool.false_eq_true, and_false, not_false_eq_true, true_and]
    exact List.Pairwise.filter _ ih

namespace Registry

def candidates (discovered : List Callable) : List Callable :=
  keepFirst (Builtin.callables ++ discovered.filter (!·.returnsBareContainer))

def withTable (discovered : List Callable) (table : TypeTable) (seed : UInt64) : Registry :=
  let callables := Shuffle.shuffle seed (candidates discovered)
  ⟨table.discoverAll (callables.flatMap Callable.signatureTypes), callables⟩

def ofCallables (discovered : List Callable) (seed : UInt64) : Registry :=
  withTable discovered Builtin.seededTable seed

end Registry
end UnitTestGen
