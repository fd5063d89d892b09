import UnitTestGen.Ty.Order
import UnitTestGen.Ty.Traits

/-! Which values can be used where a type is expected. A type accepts another of the same form whose
parts it accepts; a generic parameter accepts what its bounds admit, so the relation has a
direction. On top of it, a type may hold another one level down or anywhere below. -/

namespace UnitTestGen.Ty

mutual

def accepts : Ty → Ty → Bool
  | generic _ bounds, t => bounds.admits t
  | prim p, prim q => p == q
  | adt k n gs _, adt k' n' gs' _ => k == k' && n == n' && acceptsAll gs gs'
  | tuple ts, tuple us => acceptsAll ts us
  | array t n, array u n' => n == n' && t.accepts u
  | slice t, slice u => t.accepts u
  | ref t m, ref u m' => m == m' && t.accepts u
  | traitObj n b, traitObj n' b' => n == n' && b.toList.all b'.contains
  | fn ps none, fn qs none => acceptsAll ps qs
  | fn ps (some r), fn qs (some s) => acceptsAll ps qs && r.accepts s
  | _, _ => false

def acceptsAll : List Ty → List Ty → Bool
  | [], [] => true
  | t :: ts, u :: us => t.accepts u && acceptsAll ts us
  | _, _ => false

end

/-- Whether the first type accepts the second or has a part one level down that does; a bare generic
parameter as a part does not count. -/
def acceptsIndirectly (t u : Ty) : Bool :=
  t.accepts u || t.children.any fun child => !child.isGeneric && child.accepts u

def acceptsAsPart (t u : Ty) : Option Ty :=
  if !t.isGeneric && t.accepts u then some t else none

mutual

/-- The first part below the type, outermost and leftmost first, that accepts the other type; parts
that are bare generic parameters are passed over. -/
def wraps : Ty → Ty → Option Ty
  | adt _ _ gs _, u => wrapsAny gs u
  | tuple ts, u => wrapsAny ts u
  | array t _, u => (t.acceptsAsPart u).or (t.wraps u)
  | slice t, u => (t.acceptsAsPart u).or (t.wraps u)
  | ref t _, u => (t.acceptsAsPart u).or (t.wraps u)
  | prim _, _ | generic _ _, _ | traitObj _ _, _ | fn _ _, _ => none

def wrapsAny : List Ty → Ty → Option Ty
  | [], _ => none
  | t :: ts, u => ((t.acceptsAsPart u).or (t.wraps u)).or (wrapsAny ts u)

end

theorem acceptsAll_iff {ts us : List Ty} :
    acceptsAll ts us ↔ ts.length = us.length ∧ ∀ p ∈ ts.zip us, p.1.accepts p.2 := by
  induction ts generalizing us with
  | nil => cases us <;> simp [acceptsAll]
  | cons t ts ih =>
    cases us with
    | nil => simp [acceptsAll]
    | cons u us => simp [acceptsAll, ih]; grind

theorem wrapsAny_eq_findSome? (ts : List Ty) (u : Ty) :
    wrapsAny ts u = ts.findSome? fun t => (t.acceptsAsPart u).or (t.wraps u) := by
  induction ts with
  | nil => rfl
  | cons t ts ih =>
    simp only [wrapsAny, List.findSome?_cons, ih]
    cases (t.acceptsAsPart u).or (t.wraps u) <;> rfl

theorem wraps_generic (n : String) (b : TraitSet) (u : Ty) : (generic n b).wraps u = none := by
  simp [wraps]

theorem wraps_eq_findSome? (t u : Ty) :
    t.wraps u = t.children.findSome? fun c => (c.acceptsAsPart u).or (c.wraps u) := by
  cases t <;> simp [wraps, children, wrapsAny_eq_findSome?]

end UnitTestGen.Ty
