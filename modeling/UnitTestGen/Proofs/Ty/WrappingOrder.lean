import UnitTestGen.Proofs.Registry.Generators
import UnitTestGen.Proofs.Ty.Identity

/-! Wrapping as an order on types without generic parameters. What such a type accepts is built as
it is itself, so their descendants accept each other one by one. A type that wraps another thus has
more descendants than the other has, and holds whatever the other holds. -/

namespace UnitTestGen

namespace Ty

theorem closed_of_mem_descendants {t x : Ty} (ht : ¬ t.hasGenericParams)
    (hx : x ∈ t.descendants) : ¬ x.hasGenericParams := by
  rw [mem_descendants_iff_transGen] at hx
  induction hx with
  | single hc => exact closed_of_mem_parts ht (children_subset_parts _ hc)
  | tail _ hc ih => exact closed_of_mem_parts ih (children_subset_parts _ hc)

theorem accepts_induction {R : Ty → Ty → Prop}
    (step : ∀ t u, ¬ t.isGeneric → t.form.Fits u.form →
      List.Forall₂ (fun p q => p.accepts q ∧ R p q) t.parts u.parts → R t u)
    {t u : Ty} (ht : ¬ t.hasGenericParams) (h : t.accepts u) : R t u := by
  induction t using form_induction generalizing u with
  | generic n b => exact absurd rfl ht
  | form t hgen ih =>
    obtain ⟨hfits, hparts⟩ := (accepts_iff hgen).1 h
    have hclosed : ∀ p ∈ t.parts, ∀ q, p.accepts q → p.accepts q ∧ R p q := by
      intro p hp q hpq
      exact ⟨hpq, ih p hp (closed_of_mem_parts ht hp) hpq⟩
    exact step t u hgen hfits (forall₂_imp_of_mem hclosed hparts)

theorem accepts_trans_of_closed {a b c : Ty} (ha : ¬ a.hasGenericParams) (hab : a.accepts b)
    (hbc : b.accepts c) : a.accepts c := by
  apply accepts_induction (R := fun a b => ∀ c, b.accepts c → a.accepts c) _ ha hab c hbc
  intro a b hgen hfits hparts c hbc
  have hb : ¬ b.isGeneric := not_isGeneric_of_fits hfits hgen
  obtain ⟨hfits', hparts'⟩ := (accepts_iff hb).1 hbc
  refine (accepts_iff hgen).2 ⟨hfits.trans hfits', forall₂_trans_of_mem ?_ hparts hparts'⟩
  rintro p - q - r - ⟨-, hpq⟩ hqr
  exact hpq r hqr

theorem forall₂_children {R : Ty → Ty → Prop} {t u : Ty} (hfits : t.form.Fits u.form)
    (hparts : List.Forall₂ R t.parts u.parts) : List.Forall₂ R t.children u.children := by
  cases t <;> cases u <;> simp_all [form, Form.Fits, parts, children]

theorem forall₂_descendants {t u : Ty} (ht : ¬ t.hasGenericParams) (h : t.accepts u) :
    List.Forall₂ (fun x y => x.accepts y) t.descendants u.descendants := by
  apply accepts_induction (R := fun t u =>
    List.Forall₂ (fun x y => x.accepts y) t.descendants u.descendants) _ ht h
  intro t u _ hfits hparts
  rw [descendants_eq t, descendants_eq u]
  apply List.rel_flatMap (forall₂_children hfits hparts)
  rintro p q ⟨hpq, hbelow⟩
  exact .cons hpq hbelow

theorem length_descendants_child {t c : Ty} (hc : c ∈ t.children) :
    c.descendants.length < t.descendants.length := by
  have hmem : c :: c.descendants ∈ t.children.map fun c => c :: c.descendants :=
    List.mem_map_of_mem hc
  rw [descendants_eq t, List.flatMap_def]
  exact (List.sublist_flatten_of_mem hmem).length_le

theorem length_descendants_lt {t x : Ty} (hx : x ∈ t.descendants) :
    x.descendants.length < t.descendants.length := by
  rw [mem_descendants_iff_transGen] at hx
  induction hx with
  | single hc => exact length_descendants_child hc
  | tail _ hc ih => exact Nat.lt_trans (length_descendants_child hc) ih

theorem wraps_iff_of_closed {a b : Ty} (ha : ¬ a.hasGenericParams) :
    (a.wraps b).isSome ↔ ∃ x ∈ a.descendants, x.accepts b := by
  rw [wraps_isSome_iff]
  refine exists_congr fun x => and_congr_right fun hx => and_iff_right ?_
  exact not_isGeneric_of_closed (closed_of_mem_descendants ha hx)

theorem length_descendants_of_wraps {a b : Ty} (ha : ¬ a.hasGenericParams)
    (h : (a.wraps b).isSome) : b.descendants.length < a.descendants.length := by
  obtain ⟨x, hx, hxb⟩ := (wraps_iff_of_closed ha).1 h
  have heq : x.descendants.length = b.descendants.length :=
    (forall₂_descendants (closed_of_mem_descendants ha hx) hxb).length_eq
  rw [← heq]
  exact length_descendants_lt hx

theorem wraps_trans_of_closed {a b c : Ty} (ha : ¬ a.hasGenericParams)
    (hb : ¬ b.hasGenericParams) (hab : (a.wraps b).isSome) (hbc : (b.wraps c).isSome) :
    (a.wraps c).isSome := by
  obtain ⟨x, hx, hxb⟩ := (wraps_iff_of_closed ha).1 hab
  obtain ⟨y, hy, hyc⟩ := (wraps_iff_of_closed hb).1 hbc
  -- what stands in `x` where `y` stands in the type that `x` accepts
  have hxclosed : ¬ x.hasGenericParams := closed_of_mem_descendants ha hx
  obtain ⟨z, hz, hzy⟩ := exists_of_mem_forall₂ (forall₂_descendants hxclosed hxb) hy
  have hzclosed : ¬ z.hasGenericParams := closed_of_mem_descendants hxclosed hz
  have hza : z ∈ a.descendants := by
    rw [mem_descendants_iff_transGen] at hx hz ⊢
    exact hx.trans hz
  exact (wraps_iff_of_closed ha).2 ⟨z, hza, accepts_trans_of_closed hzclosed hzy hyc⟩

end Ty

def Registry.WrapsInto (r : Registry) (t u : Ty) : Prop :=
  ¬ t.hasGenericParams ∧ ¬ u.hasGenericParams ∧
    ∃ file, ∃ c ∈ r.wrappingGeneratorsOf t file, c.returnType = some u

theorem Registry.WrapsInto.wraps {r : Registry} {t u : Ty} (h : r.WrapsInto t u) :
    (u.wraps t).isSome := by
  obtain ⟨-, -, file, c, hc, hret⟩ := h
  have heligible : c ∈ r.eligible (.wrappingGenerators t) file := (mem_answer_iff.1 hc).1
  obtain ⟨-, ⟨ret, hret', -, hwraps⟩, -⟩ := mem_eligible_iff.1 heligible
  obtain rfl : u = ret := Option.some.inj (hret.symm.trans hret')
  exact Option.isSome_iff_exists.2 hwraps

theorem Registry.length_descendants_of_chain {r : Registry} {t u : Ty}
    (h : Relation.TransGen r.WrapsInto t u) : t.descendants.length < u.descendants.length := by
  have hstep {t u : Ty} (h : r.WrapsInto t u) : t.descendants.length < u.descendants.length :=
    Ty.length_descendants_of_wraps h.2.1 h.wraps
  induction h with
  | single h => exact hstep h
  | tail _ h ih => exact Nat.lt_trans ih (hstep h)

namespace Ty

/-- No type without generic parameters wraps itself, no two of them wrap each other, and wrapping is
passed on; so a chain of callables that each hold what the one before returns never comes back. -/
theorem wraps_strict_order :
    (∀ a : Ty, ¬ a.hasGenericParams → a.wraps a = none) ∧
    (∀ a b : Ty, ¬ a.hasGenericParams → ¬ b.hasGenericParams →
      (a.wraps b).isSome → b.wraps a = none) ∧
    (∀ a b c : Ty, ¬ a.hasGenericParams → ¬ b.hasGenericParams → ¬ c.hasGenericParams →
      (a.wraps b).isSome → (b.wraps c).isSome → (a.wraps c).isSome) ∧
    ∀ (r : Registry) (t : Ty), ¬ Relation.TransGen r.WrapsInto t t := by
  refine ⟨fun a ha => ?_, fun a b ha hb hab => ?_, fun a b c ha hb _ hab hbc => ?_, ?_⟩
  · rw [← Option.not_isSome_iff_eq_none]
    intro haa
    exact Nat.lt_irrefl _ (length_descendants_of_wraps ha haa)
  · rw [← Option.not_isSome_iff_eq_none]
    intro hba
    exact Nat.lt_asymm (length_descendants_of_wraps ha hab) (length_descendants_of_wraps hb hba)
  · exact wraps_trans_of_closed ha hb hab hbc
  · intro r t hchain
    exact Nat.lt_irrefl _ (Registry.length_descendants_of_chain hchain)

def shape (bounds : List String) : Ty := .traitObj "Shape" (.ofList bounds)

def framed (bounds : List String) : Ty := .struct "Frame" [shape bounds]

def gallery : Ty := .ref (.slice (framed [])) true

def maker (name : String) (ret : Ty) : Callable where
  name := name
  kind := .function
  parent := none
  params := []
  returnType := some ret
  generics := []
  visibility := .pub
  srcFile := none
  ofTrait := none

def workshop : Registry :=
  ⟨.empty, [maker "frame" (framed [TraitPath.debug]), maker "hang" gallery]⟩

theorem gallery_above_shape :
    let frame := framed [TraitPath.debug]
    let drawn := shape [TraitPath.clone, TraitPath.debug]
    (¬ gallery.hasGenericParams ∧ ¬ frame.hasGenericParams ∧ ¬ drawn.hasGenericParams) ∧
      (gallery.wraps frame).isSome ∧ (frame.wraps drawn).isSome ∧
      gallery.wraps gallery = none ∧ frame.wraps gallery = none ∧
      (gallery.wraps drawn).isSome ∧
      Relation.TransGen workshop.WrapsInto drawn gallery ∧
      ¬ Relation.TransGen workshop.WrapsInto gallery gallery := by
  intro frame drawn
  have hgallery : ¬ gallery.hasGenericParams := by decide
  have hframe : ¬ frame.hasGenericParams := by decide
  have hdrawn : ¬ drawn.hasGenericParams := by decide
  have hgf : (gallery.wraps frame).isSome := by decide
  have hfd : (frame.wraps drawn).isSome := by decide
  have hdrawnFrame : workshop.WrapsInto drawn frame :=
    ⟨hdrawn, hframe, none, maker "frame" frame, by decide, rfl⟩
  have hframeGallery : workshop.WrapsInto frame gallery :=
    ⟨hframe, hgallery, none, maker "hang" gallery, by decide, rfl⟩
  obtain ⟨hirrefl, hasymm, htrans, hchain⟩ := wraps_strict_order
  exact ⟨⟨hgallery, hframe, hdrawn⟩, hgf, hfd, hirrefl gallery hgallery,
    hasymm gallery frame hgallery hframe hgf,
    htrans gallery frame drawn hgallery hframe hdrawn hgf hfd,
    .tail (.single hdrawnFrame) hframeGallery, hchain workshop gallery⟩

end Ty
end UnitTestGen
