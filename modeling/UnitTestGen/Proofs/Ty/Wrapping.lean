import Mathlib.Logic.Relation
import UnitTestGen.Proofs.Ty.Parts

/-! The descendants of a type, in the order in which they are written down: a part comes before what
it holds itself, and all that before the parts to its right. What a function takes or gives is not
held by the function. The search for a wrapped type goes through this list, so it ends at the first
member that matches, however many branches without a match are left of it. -/

namespace UnitTestGen.Ty

mutual

def descendants : Ty → List Ty
  | adt _ _ gs _ => descendantsAll gs
  | tuple ts => descendantsAll ts
  | array t _ => t :: t.descendants
  | slice t => t :: t.descendants
  | ref t _ => t :: t.descendants
  | prim _ | generic _ _ | traitObj _ _ | fn _ _ => []

def descendantsAll : List Ty → List Ty
  | [] => []
  | t :: ts => t :: (t.descendants ++ descendantsAll ts)

end

theorem descendantsAll_eq_flatMap (ts : List Ty) :
    descendantsAll ts = ts.flatMap fun t => t :: t.descendants := by
  induction ts with
  | nil => rfl
  | cons t ts ih => rw [descendantsAll, ih, List.flatMap_cons, List.cons_append]

theorem descendants_eq (t : Ty) :
    t.descendants = t.children.flatMap fun c => c :: c.descendants := by
  cases t <;> simp [descendants, children, descendantsAll_eq_flatMap]

theorem mem_descendants {t x : Ty} :
    x ∈ t.descendants ↔ ∃ c ∈ t.children, x = c ∨ x ∈ c.descendants := by
  rw [descendants_eq, List.mem_flatMap]
  simp only [List.mem_cons]

theorem mem_descendants_iff_transGen {t x : Ty} :
    x ∈ t.descendants ↔ Relation.TransGen (fun a c => c ∈ a.children) t x := by
  constructor
  · intro hx
    induction t using form_induction with
    | generic n b => cases hx
    | form t _ ih =>
      obtain ⟨c, hc, rfl | hx⟩ := mem_descendants.1 hx
      · exact .single hc
      · exact .head hc (ih c (children_subset_parts t hc) hx)
  · intro hx
    induction hx using Relation.TransGen.head_induction_on with
    | single hc => exact mem_descendants.2 ⟨_, hc, .inl rfl⟩
    | head hc _ ih => exact mem_descendants.2 ⟨_, hc, .inr ih⟩

def Hit (u x : Ty) : Prop := ¬ x.isGeneric ∧ x.accepts u

theorem hit_iff {u x : Ty} : Hit u x ↔ (!x.isGeneric && x.accepts u) := by
  simp [Hit]

instance (u : Ty) : DecidablePred (Hit u) := fun _ => decidable_of_iff _ hit_iff.symm

theorem acceptsAsPart_eq (t u : Ty) : t.acceptsAsPart u = if Hit u t then some t else none := by
  unfold acceptsAsPart
  simp only [hit_iff]

theorem find?_cons_descendants (u t : Ty) (ts : List Ty) :
    (t :: ts).find? (Hit u ·) = (t.acceptsAsPart u).or (ts.find? (Hit u ·)) := by
  rw [acceptsAsPart_eq, List.find?_cons]
  by_cases h : Hit u t <;> simp [h]

theorem wrapsAny_eq_find? {ts : List Ty} {u : Ty}
    (h : ∀ t ∈ ts, t.wraps u = t.descendants.find? (Hit u ·)) :
    wrapsAny ts u = (descendantsAll ts).find? (Hit u ·) := by
  induction ts with
  | nil => rfl
  | cons t ts ih =>
    have ht : t.wraps u = t.descendants.find? (Hit u ·) := h t List.mem_cons_self
    have hts := ih fun t' ht' => h t' (List.mem_cons_of_mem t ht')
    rw [wrapsAny, descendantsAll, find?_cons_descendants, List.find?_append, ht, hts,
      Option.or_assoc]

theorem wraps_eq_find? (t u : Ty) : t.wraps u = t.descendants.find? (Hit u ·) := by
  have hchildren (t : Ty) : t.wraps u = wrapsAny t.children u := by
    rw [wraps_eq_findSome?, wrapsAny_eq_findSome?]
  induction t using form_induction with
  | generic n b => exact wraps_generic n b u
  | form t _ ih =>
    rw [hchildren, descendants_eq, ← descendantsAll_eq_flatMap]
    apply wrapsAny_eq_find?
    intro c hc
    exact ih c (children_subset_parts t hc)

theorem wraps_isSome_iff {t u : Ty} : (t.wraps u).isSome ↔ ∃ x ∈ t.descendants, Hit u x := by
  rw [wraps_eq_find?, List.find?_isSome]
  simp only [decide_eq_true_eq]

theorem wraps_isSome_of_children {t u : Ty} (h : ∃ c ∈ t.children, Hit u c) :
    (t.wraps u).isSome := by
  obtain ⟨c, hc, hhit⟩ := h
  exact wraps_isSome_iff.2 ⟨c, mem_descendants.2 ⟨c, hc, .inl rfl⟩, hhit⟩

theorem wraps_eq_some_iff {t u x : Ty} :
    t.wraps u = some x ↔ ∃ before after, t.descendants = before ++ x :: after ∧ Hit u x ∧
      ∀ y ∈ before, ¬ Hit u y := by
  rw [wraps_eq_find?, List.find?_eq_some_iff_append]
  simp only [decide_eq_true_eq, Bool.not_eq_true', decide_eq_false_iff_not]
  constructor
  · rintro ⟨hx, before, after, hsplit, hbefore⟩
    exact ⟨before, after, hsplit, hx, hbefore⟩
  · rintro ⟨before, after, hsplit, hx, hbefore⟩
    exact ⟨hx, before, after, hsplit, hbefore⟩

theorem acceptsIndirectly_iff {t u : Ty} :
    t.acceptsIndirectly u ↔ t.accepts u ∨ ∃ c ∈ t.children, Hit u c := by
  simp [acceptsIndirectly, Hit]

/-- The search gives the first hit among the descendants in depth-first order, and nothing exactly
if none of them is a hit. So what is found one level down is found by the search. -/
theorem wraps_exact (t u : Ty) :
    (∀ x, t.wraps u = some x ↔ ∃ before after, t.descendants = before ++ x :: after ∧ Hit u x ∧
      ∀ y ∈ before, ¬ Hit u y) ∧
    (t.wraps u = none ↔ ∀ x ∈ t.descendants, ¬ Hit u x) ∧
    (∀ x, x ∈ t.descendants ↔ Relation.TransGen (fun a c => c ∈ a.children) t x) ∧
    (t.acceptsIndirectly u → t.accepts u ∨ (t.wraps u).isSome) := by
  have hnone : t.wraps u = none ↔ ∀ x ∈ t.descendants, ¬ Hit u x := by
    rw [wraps_eq_find?, List.find?_eq_none]
    simp only [decide_eq_true_eq]
  refine ⟨fun x => wraps_eq_some_iff, hnone, fun x => mem_descendants_iff_transGen, fun h => ?_⟩
  apply (acceptsIndirectly_iff.1 h).imp_right
  exact wraps_isSome_of_children

def stackOf (t : Ty) : Ty := .struct "Stack" [t]

def shelf : Ty :=
  .tuple [.generic "T" ∅, .fn [stackOf (.prim .u8)] none, .slice (stackOf (.generic "U" ∅)),
    stackOf (.prim .u8)]

theorem wraps_shelf :
    shelf.acceptsIndirectly (stackOf (.prim .u8)) ∧
      (shelf.accepts (stackOf (.prim .u8)) ∨ (shelf.wraps (stackOf (.prim .u8))).isSome) ∧
      shelf.wraps (stackOf (.prim .u8)) = some (stackOf (.generic "U" ∅)) := by
  have hdown : shelf.acceptsIndirectly (stackOf (.prim .u8)) := by decide
  obtain ⟨hfirst, -, -, hsearch⟩ := wraps_exact shelf (stackOf (.prim .u8))
  refine ⟨hdown, hsearch hdown, (hfirst _).2 ⟨[.generic "T" ∅, .fn [stackOf (.prim .u8)] none,
    .slice (stackOf (.generic "U" ∅))], [.generic "U" ∅, stackOf (.prim .u8), .prim .u8], ?_⟩⟩
  exact ⟨rfl, by decide, by decide⟩

end UnitTestGen.Ty
