import UnitTestGen.Proofs.Ty.AcceptanceOrder

/-! What inferring a binding finds out. The parameters of a template face parts of the type it is
matched with; inference succeeds exactly if the template accepts the type and no name faces two
types, and then binds each name to what it faces. -/

namespace UnitTestGen.Ty

/-- A generic parameter of this name in the first type stands where the last type stands in the
second. -/
inductive Faces : Ty → Ty → String → Ty → Prop
  | here (n : String) (b : TraitSet) (u : Ty) : Faces (generic n b) u n u
  | part {t u p q : Ty} {n : String} {v : Ty} (hp : (p, q) ∈ t.parts.zip u.parts)
      (h : Faces p q n v) : Faces t u n v

def paramNames (t : Ty) : List String :=
  t.nodes.filterMap fun
    | generic n _ => some n
    | _ => none

theorem mem_paramNames {t : Ty} {n : String} : n ∈ t.paramNames ↔ ∃ b, generic n b ∈ t.nodes := by
  unfold paramNames
  rw [List.mem_filterMap]
  constructor
  · rintro ⟨x, hx, hn⟩
    cases x with
    | generic m b =>
      cases hn
      exact ⟨b, hx⟩
    | _ => cases hn
  · rintro ⟨b, hb⟩
    exact ⟨generic n b, hb, rfl⟩

def FacesAny (ts us : List Ty) (n : String) (v : Ty) : Prop :=
  ∃ p ∈ ts.zip us, Faces p.1 p.2 n v

theorem facesAny_cons {t u : Ty} {ts us : List Ty} {n : String} {v : Ty} :
    FacesAny (t :: ts) (u :: us) n v ↔ Faces t u n v ∨ FacesAny ts us n v := by
  simp [FacesAny]

theorem faces_generic {n m : String} {b : TraitSet} {u v : Ty} :
    Faces (generic n b) u m v ↔ m = n ∧ v = u := by
  constructor
  · rintro (_ | ⟨hp, _⟩)
    · exact ⟨rfl, rfl⟩
    · cases hp
  · rintro ⟨rfl, rfl⟩
    exact .here m b v

theorem faces_iff {t u : Ty} (ht : ¬ t.isGeneric) {n : String} {v : Ty} :
    Faces t u n v ↔ FacesAny t.parts u.parts n v := by
  constructor
  · rintro (_ | ⟨hp, h⟩)
    · exact absurd rfl ht
    · exact ⟨_, hp, h⟩
  · rintro ⟨p, hp, h⟩
    exact .part hp h

def Learns (s : Binding) (known : String → Ty → Prop) (s' : Binding) : Prop :=
  ∀ n v, s'[n]? = some v ↔ s[n]? = some v ∨ known n v

def Agrees (s : Binding) (known : String → Ty → Prop) : Prop :=
  ∀ n v w, s[n]? = some v ∨ known n v → s[n]? = some w ∨ known n w → v = w

theorem Learns.agrees {s s' : Binding} {known : String → Ty → Prop} (h : Learns s known s') :
    Agrees s known := by
  intro n v w hv hw
  exact Option.some.inj (((h n v).2 hv).symm.trans ((h n w).2 hw))

theorem Learns.unique {s a b : Binding} {known : String → Ty → Prop} (ha : Learns s known a)
    (hb : Learns s known b) : a = b := by
  refine Std.ExtTreeMap.ext_getElem? fun n => Option.ext fun v => ?_
  rw [ha n v, hb n v]

theorem learns_nil (s : Binding) : Learns s (FacesAny [] []) s := by
  intro n v
  simp [FacesAny]

theorem Learns.cons {s a s' : Binding} {t u : Ty} {ts us : List Ty} (ha : Learns s (Faces t u) a)
    (hs : Learns a (FacesAny ts us) s') : Learns s (FacesAny (t :: ts) (u :: us)) s' := by
  intro n v
  rw [hs n v, ha n v, facesAny_cons, or_assoc]

theorem Agrees.head {s : Binding} {t u : Ty} {ts us : List Ty}
    (h : Agrees s (FacesAny (t :: ts) (u :: us))) : Agrees s (Faces t u) := by
  intro n v w hv hw
  exact h n v w (hv.imp_right (facesAny_cons.2 ∘ .inl)) (hw.imp_right (facesAny_cons.2 ∘ .inl))

theorem Agrees.tail {s a : Binding} {t u : Ty} {ts us : List Ty}
    (h : Agrees s (FacesAny (t :: ts) (u :: us))) (ha : Learns s (Faces t u) a) :
    Agrees a (FacesAny ts us) := by
  intro n v w hv hw
  rw [ha n v, or_assoc, ← facesAny_cons] at hv
  rw [ha n w, or_assoc, ← facesAny_cons] at hw
  exact h n v w hv hw

theorem learns_generic {s : Binding} {n : String} {b : TraitSet} {u : Ty} (h : s[n]? = some u) :
    Learns s (Faces (generic n b) u) s := by
  intro m v
  rw [faces_generic]
  refine ⟨.inl, ?_⟩
  rintro (hv | ⟨rfl, rfl⟩)
  · exact hv
  · exact h

theorem learns_generic_insert {s : Binding} {n : String} {b : TraitSet} {u : Ty}
    (h : s[n]? = none) : Learns s (Faces (generic n b) u) (s.insert n u) := by
  intro m v
  rw [faces_generic, Std.ExtTreeMap.getElem?_insert]
  by_cases hm : m = n
  · subst hm
    simp [h, eq_comm]
  · simp [hm, Ne.symm hm]

theorem unifyAll_sound {s s' : Binding} {ts us : List Ty}
    (ih : ∀ t ∈ ts, ∀ s s' u, unify s t u = some s' → t.accepts u ∧ Learns s (Faces t u) s')
    (h : unifyAll s ts us = some s') :
    List.Forall₂ (fun t u => t.accepts u) ts us ∧ Learns s (FacesAny ts us) s' := by
  induction ts generalizing s us with
  | nil =>
    cases us with
    | nil =>
      cases h
      exact ⟨.nil, learns_nil _⟩
    | cons u us => cases h
  | cons t ts ihs =>
    cases us with
    | nil => cases h
    | cons u us =>
      obtain ⟨a, ha, h⟩ := Option.bind_eq_some_iff.1 h
      obtain ⟨hacc, hlearns⟩ := ih t (.head _) s a u ha
      obtain ⟨haccs, hlearns'⟩ := ihs (fun t' ht' => ih t' (.tail _ ht')) h
      exact ⟨.cons hacc haccs, hlearns.cons hlearns'⟩

theorem unify_sound {s s' : Binding} {t u : Ty} (h : unify s t u = some s') :
    t.accepts u ∧ Learns s (Faces t u) s' := by
  -- the bindings before and after change from part to part
  induction t using form_induction generalizing s s' u with
  | generic n b =>
    rw [unify, Option.ite_none_right_eq_some] at h
    obtain ⟨hadmits, h⟩ := h
    refine ⟨by rwa [accepts], ?_⟩
    split at h
    · rename_i hbound
      rw [Option.ite_none_right_eq_some] at h
      obtain ⟨rfl, hs⟩ := h
      cases hs
      exact learns_generic hbound
    · rename_i hfree
      cases h
      exact learns_generic_insert hfree
  | form t ht ih =>
    obtain ⟨hform, hall⟩ := (unify_eq_some_iff ht).1 h
    obtain ⟨hparts, hlearns⟩ := unifyAll_sound (fun p hp _ _ _ => ih p hp) hall
    refine ⟨(accepts_iff ht).2 ⟨hform, hparts⟩, fun n v => ?_⟩
    rw [hlearns n v, faces_iff ht]

theorem unifyAll_complete {s : Binding} {ts us : List Ty}
    (ih : ∀ t ∈ ts, ∀ s u, t.accepts u → Agrees s (Faces t u) → ∃ s', unify s t u = some s')
    (h : List.Forall₂ (fun t u => t.accepts u) ts us) (ha : Agrees s (FacesAny ts us)) :
    ∃ s', unifyAll s ts us = some s' := by
  induction h generalizing s with
  | nil => exact ⟨s, rfl⟩
  | @cons t u ts us hacc _ ihs =>
    obtain ⟨a, hunify⟩ := ih t (.head _) s u hacc ha.head
    -- what the first part has taught is in the binding now, so the rest still agrees with it
    have hlearns : Learns s (Faces t u) a := (unify_sound hunify).2
    obtain ⟨s', hall⟩ := ihs (fun t' ht' => ih t' (.tail _ ht')) (ha.tail hlearns)
    exact ⟨s', Option.bind_eq_some_iff.2 ⟨a, hunify, hall⟩⟩

theorem unify_complete {s : Binding} {t u : Ty} (h : t.accepts u) (ha : Agrees s (Faces t u)) :
    ∃ s', unify s t u = some s' := by
  induction t using form_induction generalizing s u with
  | generic n b =>
    rw [accepts] at h
    rw [unify, if_pos h]
    cases hbound : s[n]? with
    | none => exact ⟨_, rfl⟩
    | some bound =>
      have heq : bound = u := ha n bound u (.inl hbound) (.inr (.here n b u))
      exact ⟨s, if_pos heq⟩
  | form t ht ih =>
    obtain ⟨hform, hparts⟩ := (accepts_iff ht).1 h
    have ha' : Agrees s (FacesAny t.parts u.parts) := by
      simpa only [Agrees, faces_iff ht] using ha
    obtain ⟨s', hall⟩ := unifyAll_complete (fun p hp _ _ => ih p hp) hparts ha'
    exact ⟨s', (unify_eq_some_iff ht).2 ⟨hform, hall⟩⟩

theorem infer_eq_some_iff {t u : Ty} {b : Binding} :
    infer t u = some b ↔ t.accepts u ∧ ∀ n v, b[n]? = some v ↔ Faces t u n v := by
  have hempty : ∀ b, Learns ∅ (Faces t u) b ↔ ∀ n v, b[n]? = some v ↔ Faces t u n v := by
    simp [Learns]
  rw [← hempty]
  constructor
  · exact unify_sound
  · rintro ⟨hacc, hlearns⟩
    obtain ⟨b', hb'⟩ := unify_complete hacc hlearns.agrees
    rw [← (unify_sound hb').2.unique hlearns]
    exact hb'

theorem exists_infer_iff {t u : Ty} :
    (∃ b, infer t u = some b) ↔
      t.accepts u ∧ ∀ n v w, Faces t u n v → Faces t u n w → v = w := by
  have hempty : Agrees ∅ (Faces t u) ↔ ∀ n v w, Faces t u n v → Faces t u n w → v = w := by
    simp [Agrees]
  rw [← hempty]
  constructor
  · rintro ⟨b, hb⟩
    obtain ⟨hacc, hlearns⟩ := unify_sound hb
    exact ⟨hacc, hlearns.agrees⟩
  · rintro ⟨hacc, ha⟩
    exact unify_complete hacc ha

theorem exists_zip_of_mem {ts us : List Ty} (h : ts.length = us.length) {p : Ty} (hp : p ∈ ts) :
    ∃ q, (p, q) ∈ ts.zip us := by
  have hfst : (ts.zip us).map Prod.fst = ts := List.map_fst_zip (Nat.le_of_eq h)
  rw [← hfst] at hp
  obtain ⟨⟨p', q⟩, hpq, rfl⟩ := List.mem_map.1 hp
  exact ⟨q, hpq⟩

theorem mem_paramNames_iff_faces {t u : Ty} (h : t.accepts u) {n : String} :
    n ∈ t.paramNames ↔ ∃ v, Faces t u n v := by
  rw [mem_paramNames]
  induction t using form_induction generalizing u with
  | generic m b => simp [nodes_generic, faces_generic]
  | form t ht ih =>
    have hparts := ((accepts_iff ht).1 h).2
    simp only [generic_mem_nodes ht, faces_iff ht]
    constructor
    · rintro ⟨b, p, hp, hb⟩
      obtain ⟨q, hpq⟩ := exists_zip_of_mem hparts.length_eq hp
      obtain ⟨v, hv⟩ := (ih p hp (List.forall₂_zip hparts hpq)).1 ⟨b, hb⟩
      exact ⟨v, (p, q), hpq, hv⟩
    · rintro ⟨v, ⟨p, q⟩, hpq, hv⟩
      have hp : p ∈ t.parts := (List.of_mem_zip hpq).1
      obtain ⟨b, hb⟩ := (ih p hp (List.forall₂_zip hparts hpq)).2 ⟨v, hv⟩
      exact ⟨b, p, hp, hb⟩

/-- A relation that every type has to itself, and that goes up from parts to forms that fit, holds
between the template with what its parameters face put in and the type. -/
theorem subst_related {R : Ty → Ty → Prop} (refl : ∀ u, R u u) {s : Binding} {t u : Ty}
    (step : ∀ x ∈ t.nodes, ¬ x.isGeneric → ∀ y, x.form.Fits y.form →
      List.Forall₂ R (x.subst s).parts y.parts → R (x.subst s) y)
    (h : t.accepts u) (hs : ∀ n v, Faces t u n v → s[n]? = some v) : R (t.subst s) u := by
  induction t using form_induction generalizing u with
  | generic n b =>
    have hn : s[n]? = some u := hs n u (.here n b u)
    rw [subst, hn]
    exact refl u
  | form t ht ih =>
    obtain ⟨hform, hparts⟩ := (accepts_iff ht).1 h
    refine step t (self_mem_nodes t) ht u hform ?_
    rw [parts_subst ht, List.forall₂_map_left_iff, List.forall₂_iff_zip]
    refine ⟨hparts.length_eq, fun {p q} hpq => ?_⟩
    have hp : p ∈ t.parts := (List.of_mem_zip hpq).1
    refine ih p hp (fun x hx => step x (nodes_subset hp hx)) (List.forall₂_zip hparts hpq) ?_
    intro n v hv
    exact hs n v (.part hpq hv)

theorem accepts_subst_of_faces {s : Binding} {t u : Ty} (h : t.accepts u)
    (hs : ∀ n v, Faces t u n v → s[n]? = some v) : (t.subst s).accepts u := by
  refine subst_related (R := fun t u => t.accepts u) accepts_refl ?_ h hs
  intro x _ hx y hform hparts
  rw [← form_subst hx s] at hform
  exact (accepts_iff (not_isGeneric_subst hx s)).2 ⟨hform, hparts⟩

theorem sameStructure_subst_of_faces {s : Binding} {t u : Ty} (h : t.accepts u)
    (hs : ∀ n v, Faces t u n v → s[n]? = some v) (hobj : ∀ n b, traitObj n b ∉ t.nodes) :
    (t.subst s).sameStructure u := by
  refine subst_related (R := fun t u => t.sameStructure u) ?_ ?_ h hs
  · intro u
    exact beq_self_eq_true u.key
  · intro x hxt hx y hform hparts
    have hne : ∀ n b, x.form ≠ .traitObj n b := by
      intro n b hf
      cases x with
      | traitObj m b' => exact hobj m b' hxt
      | _ => cases hf
    rw [sameStructure_iff, form_subst hx s]
    exact ⟨hform.eq hne, hparts⟩

/-- Inference finds a binding exactly if the template accepts the type and no name faces two types.
It then binds the names that occur in the template, each to what it faces; with these put in, the
template accepts the type, and is the same type up to recorded traits if it has no trait object. -/
theorem infer_exact (t u : Ty) :
    ((∃ b, infer t u = some b) ↔
      t.accepts u ∧ ∀ n v w, Faces t u n v → Faces t u n w → v = w) ∧
    ∀ b, infer t u = some b →
      (∀ n, n ∈ b ↔ n ∈ t.paramNames) ∧ (∀ n v, b[n]? = some v ↔ Faces t u n v) ∧
      (t.subst b).accepts u ∧
      ((∀ n bounds, traitObj n bounds ∉ t.nodes) → (t.subst b).sameStructure u) := by
  refine ⟨exists_infer_iff, fun b hb => ?_⟩
  obtain ⟨hacc, hfaces⟩ := infer_eq_some_iff.1 hb
  have hbound : ∀ n v, Faces t u n v → b[n]? = some v := fun n v => (hfaces n v).2
  refine ⟨fun n => ?_, hfaces, accepts_subst_of_faces hacc hbound,
    sameStructure_subst_of_faces hacc hbound⟩
  rw [Std.ExtTreeMap.mem_iff_isSome_getElem?, Option.isSome_iff_exists,
    mem_paramNames_iff_faces hacc]
  simp only [hfaces]

def vec (t : Ty) : Ty := .struct "Vec" [t]

def template : Ty :=
  .fn [vec (.generic "T" ∅), .ref (.generic "T" ∅) true]
    (some (.tuple [.generic "T" ∅, .generic "U" ∅]))

def signature : Ty :=
  .fn [vec (.prim .u8), .ref (.prim .u8) true] (some (.tuple [.prim .u8, .generic "T" ∅]))

theorem infer_signature :
    ∃ b, infer template signature = some b ∧ b["T"]? = some (.prim .u8) ∧
      b["U"]? = some (.generic "T" ∅) ∧ (template.subst b).sameStructure signature := by
  obtain ⟨b, hb⟩ : ∃ b, infer template signature = some b :=
    Option.isSome_iff_exists.1 (by decide)
  obtain ⟨_, hfaces, _, hsame⟩ := (infer_exact template signature).2 b hb
  have hT : Faces template signature "T" (.prim .u8) :=
    .part (p := vec (.generic "T" ∅)) (q := vec (.prim .u8)) (by decide)
      (.part (p := .generic "T" ∅) (q := .prim .u8) (by decide) (.here "T" ∅ _))
  have hU : Faces template signature "U" (.generic "T" ∅) :=
    .part (p := .tuple [.generic "T" ∅, .generic "U" ∅])
      (q := .tuple [.prim .u8, .generic "T" ∅]) (by decide)
      (.part (p := .generic "U" ∅) (q := .generic "T" ∅) (by decide) (.here "U" ∅ _))
  refine ⟨b, hb, (hfaces _ _).2 hT, (hfaces _ _).2 hU, hsame ?_⟩
  intro n bounds
  simp [template, vec, struct, nodes, nodesAll]

example : (infer (.tuple [.generic "T" ∅, .generic "T" ∅])
    (.tuple [.prim .u8, .prim .bool])).isNone := by
  decide

end UnitTestGen.Ty
