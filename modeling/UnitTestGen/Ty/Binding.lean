import UnitTestGen.Ty.Accepts
import Std.Data.ExtTreeMap

/-! Bindings of generic parameter names to types: replacing parameters by what they are bound to,
and finding the binding that turns a template into a given type. A parameter that occurs twice
must face the same type at both places. -/

namespace UnitTestGen

abbrev Binding := Std.ExtTreeMap String Ty

namespace Binding

def empty : Binding := ∅

def bind (s : Binding) (name : String) (t : Ty) : Option Ty × Binding := (s[name]?, s.insert name t)

def ofList (pairs : List (String × Ty)) : Binding := Std.ExtTreeMap.ofList pairs

end Binding

namespace Ty

mutual

/-- Every generic parameter replaced by the type bound to its name; a name that is not bound keeps
its parameter. -/
def subst (s : Binding) : Ty → Ty
  | prim p => prim p
  | adt k n gs tr => adt k n (substAll s gs) tr
  | tuple ts => tuple (substAll s ts)
  | array t n => array (t.subst s) n
  | slice t => slice (t.subst s)
  | ref t m => ref (t.subst s) m
  | generic n b => s[n]?.getD (generic n b)
  | traitObj n b => traitObj n b
  | fn ps none => fn (substAll s ps) none
  | fn ps (some r) => fn (substAll s ps) (some (r.subst s))

def substAll (s : Binding) : List Ty → List Ty
  | [] => []
  | t :: ts => t.subst s :: substAll s ts

end

theorem substAll_eq_map (s : Binding) (ts : List Ty) : substAll s ts = ts.map (subst s) := by
  induction ts with
  | nil => rfl
  | cons t ts ih => simp [substAll, ih]

mutual

def unify (s : Binding) : Ty → Ty → Option Binding
  | generic n bounds, t =>
    if bounds.admits t then
      match s[n]? with
      | some bound => if bound = t then some s else none
      | none => some (s.insert n t)
    else none
  | prim p, prim q => if p = q then some s else none
  | adt k n gs _, adt k' n' gs' _ => if k = k' ∧ n = n' then unifyAll s gs gs' else none
  | tuple ts, tuple us => unifyAll s ts us
  | array t n, array u n' => if n = n' then unify s t u else none
  | slice t, slice u => unify s t u
  | ref t m, ref u m' => if m = m' then unify s t u else none
  | traitObj n b, traitObj n' b' =>
    if (traitObj n b).accepts (traitObj n' b') then some s else none
  | fn ps none, fn qs none => unifyAll s ps qs
  | fn ps (some r), fn qs (some r') => (unifyAll s ps qs).bind fun s => unify s r r'
  | _, _ => none

def unifyAll (s : Binding) : List Ty → List Ty → Option Binding
  | [], [] => some s
  | t :: ts, u :: us => (unify s t u).bind fun s => unifyAll s ts us
  | _, _ => none

end

/-- The binding that turns the template into the type, if the two fit and no parameter faces two
different types. -/
def infer (template t : Ty) : Option Binding := unify ∅ template t

end Ty
end UnitTestGen
