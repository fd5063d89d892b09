import UnitTestGen.Proofs.Pointwise
import UnitTestGen.Ty.Binding
import UnitTestGen.Ty.Key

/-! A type as an outer form over its parts. Each function that goes through types is described here
once, by what it does to the form and to the parts. What is proved about such functions then has two
cases, a generic parameter and any other form, where there are ten kinds of types. -/

namespace UnitTestGen

inductive Form where
  | prim (p : Prim)
  | adt (kind : Nominal) (name : String)
  | tuple
  | array (len : UInt64)
  | slice
  | ref (mutable : Bool)
  | generic (name : String) (bounds : TraitSet)
  | traitObj (name : String) (bounds : TraitSet)
  | fn (returns : Bool)

namespace Form

/-- The forms are the same, except that a trait object may have more bounds than it is matched
with. -/
def Fits : Form → Form → Prop
  | traitObj n b, traitObj n' b' => n = n' ∧ ∀ p ∈ b, p ∈ b'
  | f, g => f = g

theorem Fits.refl (f : Form) : f.Fits f := by
  cases f with
  | traitObj n b => exact ⟨rfl, fun _ h => h⟩
  | _ => rfl

theorem Fits.trans {f g h : Form} (hfg : f.Fits g) (hgh : g.Fits h) : f.Fits h := by
  cases f with
  | traitObj n b =>
    cases g with
    | traitObj n' b' =>
      cases h with
      | traitObj n'' b'' => exact ⟨hfg.1.trans hgh.1, fun p hp => hgh.2 p (hfg.2 p hp)⟩
      | _ => cases hgh
    | _ => cases hfg
  | _ =>
    cases hfg
    exact hgh

theorem Fits.eq {f g : Form} (h : f.Fits g) (hf : ∀ n b, f ≠ .traitObj n b) : f = g := by
  cases f with
  | traitObj n b => exact absurd rfl (hf n b)
  | _ => exact h

end Form

namespace Ty

def form : Ty → Form
  | prim p => .prim p
  | adt k n _ _ => .adt k n
  | tuple _ => .tuple
  | array _ n => .array n
  | slice _ => .slice
  | ref _ m => .ref m
  | generic n b => .generic n b
  | traitObj n b => .traitObj n b
  | fn _ r => .fn r.isSome

def parts : Ty → List Ty
  | fn ps r => ps ++ r.toList
  | t => t.children

def recorded : Ty → TraitSet
  | adt _ _ _ tr => tr
  | _ => ∅

theorem eq_of_parts {t u : Ty} (hform : t.form = u.form) (hrecorded : t.recorded = u.recorded)
    (hparts : t.parts = u.parts) : t = u := by
  cases t with
  | fn ps r =>
    cases u with
    | fn qs r' => cases r <;> cases r' <;> simp_all [form, parts]
    | _ => cases hform
  | _ => cases u <;> simp_all [form, recorded, parts, children]

@[elab_as_elim]
theorem form_induction {P : Ty → Prop} (generic : ∀ n b, P (.generic n b))
    (form : ∀ t, ¬ t.isGeneric → (∀ p ∈ t.parts, P p) → P t) (t : Ty) : P t := by
  induction t using Ty.induction with
  | generic n b => exact generic n b
  | adt k n gs tr ih => exact form _ (by simp [isGeneric]) ih
  | tuple ts ih => exact form _ (by simp [isGeneric]) ih
  | array t n ih =>
    exact form _ (by simp [isGeneric]) (by simpa [parts, children] using ih)
  | slice t ih => exact form _ (by simp [isGeneric]) (by simpa [parts, children] using ih)
  | ref t m ih => exact form _ (by simp [isGeneric]) (by simpa [parts, children] using ih)
  | fn ps r ihp ihr =>
    refine form _ (by simp [isGeneric]) fun p hp => ?_
    rcases List.mem_append.1 hp with hp | hp
    · exact ihp p hp
    · exact ihr p (Option.mem_toList.1 hp)
  | _ => exact form _ (by simp [isGeneric]) (by simp [parts, children])

theorem children_subset_parts (t : Ty) : t.children ⊆ t.parts := by
  cases t with
  | fn ps r => exact List.nil_subset _
  | _ => exact List.Subset.refl _

theorem isGeneric_iff {t : Ty} : t.isGeneric ↔ ∃ n b, t.form = .generic n b := by
  cases t <;> simp [isGeneric, form]

theorem not_isGeneric_of_fits {t u : Ty} (h : t.form.Fits u.form) (ht : ¬ t.isGeneric) :
    ¬ u.isGeneric := by
  rw [isGeneric_iff] at ht ⊢
  rintro ⟨n, b, hu⟩
  rw [hu] at h
  cases hf : t.form with
  | generic n' b' => exact ht ⟨n', b', hf⟩
  | _ =>
    rw [hf] at h
    cases h

theorem acceptsAll_iff_forall₂ {ts us : List Ty} :
    acceptsAll ts us ↔ List.Forall₂ (fun t u => t.accepts u) ts us := by
  rw [acceptsAll_iff, List.forall₂_iff_zip]
  simp only [Prod.forall]

theorem accepts_iff {t u : Ty} (ht : ¬ t.isGeneric) :
    t.accepts u ↔ t.form.Fits u.form ∧ List.Forall₂ (fun p q => p.accepts q) t.parts u.parts := by
  cases t with
  | generic n b => exact absurd rfl ht
  | fn ps r =>
    cases u with
    | fn qs r' =>
      cases r <;> cases r' <;>
        simp [accepts, form, Form.Fits, parts, acceptsAll_iff_forall₂, forall₂_concat]
    | _ => cases r <;> simp [accepts, form, Form.Fits]
  | _ =>
    cases u <;>
      simp [accepts, form, Form.Fits, parts, children, acceptsAll_iff_forall₂, and_assoc]

theorem generic_accepts_iff {n : String} {b : TraitSet} {u : Ty} :
    (generic n b).accepts u ↔ ∀ p ∈ b, p ≠ TraitPath.sized → p ∈ u.traits := by
  rw [accepts, TraitSet.admits_iff]

theorem unifyAll_concat (s : Binding) (ts us : List Ty) (t u : Ty) :
    unifyAll s (ts ++ [t]) (us ++ [u]) = (unifyAll s ts us).bind fun s => unify s t u := by
  induction ts generalizing s us with
  | nil => cases us <;> simp [unifyAll]
  | cons t' ts ih =>
    cases us with
    | nil => cases ts <;> simp [unifyAll]
    | cons u' us => simp [unifyAll, ih, Option.bind_assoc]

theorem unify_eq_some_iff {s s' : Binding} {t u : Ty} (ht : ¬ t.isGeneric) :
    unify s t u = some s' ↔ t.form.Fits u.form ∧ unifyAll s t.parts u.parts = some s' := by
  cases t with
  | generic n b => exact absurd rfl ht
  | fn ps r =>
    cases u with
    | fn qs r' => cases r <;> cases r' <;> simp [unify, form, Form.Fits, parts, unifyAll_concat]
    | _ => cases r <;> simp [unify, form, Form.Fits]
  | traitObj n b =>
    cases u with
    | traitObj n' b' =>
      rw [unify, Option.ite_none_right_eq_some, accepts_iff (by simp [isGeneric])]
      simp [parts, children, unifyAll]
    | _ => simp [unify, form, Form.Fits]
  | _ => cases u <;> simp [unify, form, Form.Fits, parts, children, unifyAll, and_assoc]

theorem form_subst {t : Ty} (ht : ¬ t.isGeneric) (s : Binding) : (t.subst s).form = t.form := by
  cases t with
  | generic n b => exact absurd rfl ht
  | fn ps r => cases r <;> rfl
  | _ => rfl

theorem not_isGeneric_subst {t : Ty} (ht : ¬ t.isGeneric) (s : Binding) :
    ¬ (t.subst s).isGeneric := by
  rw [isGeneric_iff] at ht ⊢
  rwa [form_subst (mt isGeneric_iff.1 ht)]

theorem parts_subst {t : Ty} (ht : ¬ t.isGeneric) (s : Binding) :
    (t.subst s).parts = t.parts.map (subst s) := by
  cases t with
  | generic n b => exact absurd rfl ht
  | fn ps r => cases r <;> simp [subst, parts, substAll_eq_map]
  | _ => simp [subst, parts, children, substAll_eq_map]

theorem recorded_subst {t : Ty} (ht : ¬ t.isGeneric) (s : Binding) :
    (t.subst s).recorded = t.recorded := by
  cases t with
  | generic n b => exact absurd rfl ht
  | fn ps r => cases r <;> rfl
  | _ => rfl

theorem form_key (t : Ty) : t.key.form = t.form := by
  cases t with
  | fn ps r => cases r <;> rfl
  | _ => rfl

theorem parts_key (t : Ty) : t.key.parts = t.parts.map key := by
  cases t with
  | fn ps r => cases r <;> simp [key, parts, keyAll_eq_map]
  | _ => simp [key, parts, children, keyAll_eq_map]

theorem recorded_key (t : Ty) : t.key.recorded = ∅ := by
  cases t with
  | fn ps r => cases r <;> rfl
  | _ => rfl

theorem sameStructure_iff {t u : Ty} :
    t.sameStructure u ↔
      t.form = u.form ∧ List.Forall₂ (fun p q => p.sameStructure q) t.parts u.parts := by
  have hparts : List.Forall₂ (fun p q => p.sameStructure q) t.parts u.parts ↔
      t.parts.map key = u.parts.map key := by
    rw [← List.forall₂_eq_eq_eq, List.forall₂_map_left_iff, List.forall₂_map_right_iff]
    simp [sameStructure]
  rw [hparts, sameStructure, beq_iff_eq]
  constructor
  · intro h
    rw [← form_key t, ← form_key u, ← parts_key, ← parts_key, h]
    exact ⟨rfl, rfl⟩
  · rintro ⟨hf, hp⟩
    apply eq_of_parts
    · rw [form_key, form_key, hf]
    · rw [recorded_key, recorded_key]
    · rw [parts_key, parts_key, hp]

mutual

def nodes : Ty → List Ty
  | prim p => [prim p]
  | adt k n gs tr => adt k n gs tr :: nodesAll gs
  | tuple ts => tuple ts :: nodesAll ts
  | array t n => array t n :: t.nodes
  | slice t => slice t :: t.nodes
  | ref t m => ref t m :: t.nodes
  | generic n b => [generic n b]
  | traitObj n b => [traitObj n b]
  | fn ps none => fn ps none :: nodesAll ps
  | fn ps (some r) => fn ps (some r) :: (nodesAll ps ++ r.nodes)

def nodesAll : List Ty → List Ty
  | [] => []
  | t :: ts => t.nodes ++ nodesAll ts

end

theorem nodesAll_eq_flatMap (ts : List Ty) : nodesAll ts = ts.flatMap nodes := by
  induction ts with
  | nil => rfl
  | cons t ts ih => simp [nodesAll, ih]

theorem nodes_eq (t : Ty) : t.nodes = t :: t.parts.flatMap nodes := by
  cases t with
  | fn ps r => cases r <;> simp [nodes, parts, nodesAll_eq_flatMap]
  | _ => simp [nodes, parts, children, nodesAll_eq_flatMap]

theorem mem_nodes {t x : Ty} : x ∈ t.nodes ↔ x = t ∨ ∃ p ∈ t.parts, x ∈ p.nodes := by
  rw [nodes_eq, List.mem_cons, List.mem_flatMap]

theorem self_mem_nodes (t : Ty) : t ∈ t.nodes := mem_nodes.2 (.inl rfl)

theorem nodes_subset {t p : Ty} (hp : p ∈ t.parts) : p.nodes ⊆ t.nodes :=
  fun _ hx => mem_nodes.2 (.inr ⟨p, hp, hx⟩)

theorem nodes_generic (n : String) (b : TraitSet) : (generic n b).nodes = [generic n b] := rfl

theorem generic_mem_nodes {t : Ty} (ht : ¬ t.isGeneric) {n : String} {b : TraitSet} :
    generic n b ∈ t.nodes ↔ ∃ p ∈ t.parts, generic n b ∈ p.nodes := by
  rw [mem_nodes, or_iff_right]
  rintro rfl
  exact ht rfl

end Ty
end UnitTestGen
