import UnitTestGen.Proofs.Ty.AcceptanceOrder
import UnitTestGen.Proofs.Ty.Sightings

/-! Acceptance when more or less is known of the traits. Bounds are checked on the side that accepts
and traits are read on the other, so fewer bounds there and more traits here keep what was accepted.
Both are changes that leave a type as it is built, with the sets of traits in it related place by
place; a reference adds traits and takes some away, but the same ones whatever it points at. -/

namespace UnitTestGen

namespace Ty

/-- The types are built alike. The traits recorded on structs and enums and the bounds of parameters
are related as said at each place; trait objects have the same bounds. -/
inductive Revised (facts bounds : TraitSet → TraitSet → Prop) : Ty → Ty → Prop
  | generic {n : String} {b b' : TraitSet} (h : bounds b b') :
      Revised facts bounds (.generic n b) (.generic n b')
  | form {t t' : Ty} (ht : ¬ t.isGeneric) (hform : t.form = t'.form)
      (hfacts : facts t.recorded t'.recorded)
      (hparts : List.Forall₂ (Revised facts bounds) t.parts t'.parts) :
      Revised facts bounds t t'

def Loosened : Ty → Ty → Prop := Revised Eq fun b b' => ∀ p ∈ b', p ≠ TraitPath.sized → p ∈ b

def Resized : Ty → Ty → Prop := Revised Eq fun b b' => ∀ p, p ≠ TraitPath.sized → (p ∈ b ↔ p ∈ b')

def Enriched : Ty → Ty → Prop :=
  Revised (fun tr tr' => ∀ p ∈ tr, p ∈ tr') fun b b' => ∀ p ∈ b, p ∈ b'

section Revised

variable {facts bounds : TraitSet → TraitSet → Prop} {t t' : Ty}

theorem revised_iff (ht : ¬ t.isGeneric) :
    Revised facts bounds t t' ↔ t.form = t'.form ∧ facts t.recorded t'.recorded ∧
      List.Forall₂ (Revised facts bounds) t.parts t'.parts := by
  constructor
  · rintro (_ | ⟨_, hform, hfacts, hparts⟩)
    · exact absurd rfl ht
    · exact ⟨hform, hfacts, hparts⟩
  · rintro ⟨hform, hfacts, hparts⟩
    exact .form ht hform hfacts hparts

theorem exists_of_revised_generic {n : String} {b : TraitSet}
    (h : Revised facts bounds (generic n b) t') : ∃ b', t' = generic n b' ∧ bounds b b' := by
  cases h with
  | generic h => exact ⟨_, rfl, h⟩
  | form ht => exact absurd rfl ht

theorem Revised.refl (hfacts : ∀ tr, facts tr tr) (hbounds : ∀ b, bounds b b) (t : Ty) :
    Revised facts bounds t t := by
  induction t using form_induction with
  | generic n b => exact .generic (hbounds b)
  | form t ht ih => exact .form ht rfl (hfacts _) (List.forall₂_same.2 ih)

theorem Revised.symm (h : Revised facts bounds t t') : Revised (flip facts) (flip bounds) t' t := by
  induction t using form_induction generalizing t' with
  | generic n b =>
    obtain ⟨b', rfl, hb⟩ := exists_of_revised_generic h
    exact .generic hb
  | form t ht ih =>
    obtain ⟨hform, hfacts, hparts⟩ := (revised_iff ht).1 h
    have ht' : ¬ t'.isGeneric := not_isGeneric_of_fits (hform ▸ Form.Fits.refl _) ht
    exact .form ht' hform.symm hfacts (forall₂_imp_of_mem (fun p hp _ => ih p hp) hparts).flip

end Revised

theorem mem_traits_of_enriched {x x' : Ty} (hx : Enriched x x') {p : String}
    (hs : p ≠ TraitPath.sized) (hp : p ∈ x.traits) : p ∈ x'.traits := by
  induction x using Ty.induction generalizing x' with
  | generic n b =>
    obtain ⟨b', rfl, hb⟩ := exists_of_revised_generic hx
    exact hb p hp
  | adt k n gs tr _ =>
    obtain ⟨hform, hfacts, -⟩ := (revised_iff (by simp [isGeneric])).1 hx
    cases x' with
    | adt k' n' gs' tr' => exact hfacts p hp
    | _ => cases hform
  | ref t m ih =>
    obtain ⟨hform, -, hparts⟩ := (revised_iff (by simp [isGeneric])).1 hx
    cases x' with
    | ref t' m' =>
      cases hform
      have ht : Enriched t t' := (List.forall₂_cons.1 hparts).1
      rw [mem_traits_ref hs] at hp ⊢
      split at hp
      · rwa [if_pos ‹_›]
      · rw [if_neg ‹_›]
        exact ih ht hp
    | _ => cases hform
  | prim q =>
    obtain ⟨hform, -⟩ := (revised_iff (by simp [isGeneric])).1 hx
    cases x' with
    | prim q' =>
      cases hform
      exact hp
    | _ => cases hform
  | traitObj n b =>
    obtain ⟨hform, -⟩ := (revised_iff (by simp [isGeneric])).1 hx
    cases x' with
    | traitObj n' b' =>
      cases hform
      exact hp
    | _ => cases hform
  | _ => simp [traits] at hp

theorem accepts_of_revised {facts bounds : TraitSet → TraitSet → Prop}
    (hbounds : ∀ b b', bounds b b' → ∀ p ∈ b', p ≠ TraitPath.sized → p ∈ b) {r r' x x' : Ty}
    (hr : Revised facts bounds r r') (hx : Enriched x x') (h : r.accepts x) : r'.accepts x' := by
  induction r using form_induction generalizing r' x x' with
  | generic n b =>
    obtain ⟨b', rfl, hb⟩ := exists_of_revised_generic hr
    rw [generic_accepts_iff] at h ⊢
    intro p hp hs
    have hpx : p ∈ x.traits := h p (hbounds b b' hb p hp hs) hs
    exact mem_traits_of_enriched hx hs hpx
  | form r hgen ih =>
    obtain ⟨hform, -, hparts⟩ := (revised_iff hgen).1 hr
    have hgen' : ¬ r'.isGeneric := not_isGeneric_of_fits (hform ▸ Form.Fits.refl _) hgen
    obtain ⟨hfits, haccepts⟩ := (accepts_iff hgen).1 h
    obtain ⟨hform', -, hparts'⟩ := (revised_iff (not_isGeneric_of_fits hfits hgen)).1 hx
    -- a part of the one type meets a part of the other through the two they come from
    have hmiddle : List.Forall₂ (fun p y => ∀ q, Revised facts bounds p q → q.accepts y)
        r.parts x'.parts := by
      apply forall₂_trans_of_mem _ haccepts hparts'
      intro p hp y _ y' _ hpy hy q hq
      exact ih p hp hq hy hpy
    refine (accepts_iff hgen').2 ⟨hform ▸ hform' ▸ hfits, ?_⟩
    apply forall₂_trans_of_mem _ hparts.flip hmiddle
    intro q _ p _ y _ hq hp
    exact hp q hq

theorem Enriched.refl (x : Ty) : Enriched x x :=
  Revised.refl (fun _ _ hp => hp) (fun _ _ hp => hp) x

theorem enriched_mergeTraits (x y : Ty) : Enriched x (x.mergeTraits y) := by
  cases x with
  | adt k n gs tr =>
    cases y with
    | adt k' n' gs' tr' =>
      refine .form (by simp [isGeneric]) rfl ?_ (List.forall₂_same.2 fun p _ => Enriched.refl p)
      intro p hp
      exact Std.ExtTreeSet.mem_union_iff.2 (.inl hp)
    | _ => exact Enriched.refl _
  | _ => exact Enriched.refl _

theorem accepts_of_enriched {r x x' : Ty} (hx : Enriched x x') (h : r.accepts x) :
    r.accepts x' := by
  have hr : Loosened r r := Revised.refl (fun _ => rfl) (fun _ _ hp _ => hp) r
  exact accepts_of_revised (fun _ _ hb => hb) hr hx h

theorem accepts_foldl_mergeTraits {r x : Ty} (ts : List Ty) (h : r.accepts x) :
    r.accepts (ts.foldl mergeTraits x) := by
  induction ts generalizing x with
  | nil => exact h
  | cons t ts ih => exact ih (accepts_of_enriched (enriched_mergeTraits x t) h)

theorem accepts_eq_of_resized {r r' : Ty} (hr : Resized r r') (x : Ty) :
    r.accepts x = r'.accepts x := by
  rw [Bool.eq_iff_iff]
  constructor
  · apply accepts_of_revised _ hr (Enriched.refl x)
    intro b b' hb p hp hs
    exact (hb p hs).2 hp
  · apply accepts_of_revised _ hr.symm (Enriched.refl x)
    intro b' b hb p hp hs
    exact (hb p hs).1 hp

/-- What was accepted stays so where bounds are taken from the parameters of the accepting type and
traits are given to the other; the bound of having a size makes no difference. So an entry of a
table can be used wherever it could be before more was discovered. -/
theorem accepts_monotone :
    (∀ r r' x x' : Ty, Loosened r r' → Enriched x x' → r.accepts x → r'.accepts x') ∧
    (∀ r r' x : Ty, Resized r r' → r.accepts x = r'.accepts x) ∧
    (∀ r x y : Ty, r.accepts x → r.accepts (x.mergeTraits y)) ∧
    ∀ (table : TypeTable) (k x : Ty), table[k]? = some x → ∀ ts, ∃ x',
      (table.discoverAll ts)[k]? = some x' ∧ ∀ r : Ty, r.accepts x → r.accepts x' := by
  refine ⟨fun r r' x x' hr hx h => ?_, fun r r' x hr => accepts_eq_of_resized hr x,
    fun r x y h => accepts_of_enriched (enriched_mergeTraits x y) h, ?_⟩
  · exact accepts_of_revised (fun _ _ hb => hb) hr hx h
  · intro table k x hx ts
    have hentry : (table.discoverAll ts)[k]? =
        some ((TypeTable.sightings k ts).foldl mergeTraits x) := by
      rw [TypeTable.getElem?_discoverAll, hx, TypeTable.foldl_sighted_some]
    exact ⟨_, hentry, fun r h => accepts_foldl_mergeTraits _ h⟩

def slicing (t u : Ty) : Ty := .fn [.ref t true] (some (.slice u))

theorem revised_slicing {facts bounds : TraitSet → TraitSet → Prop} {t t' u u' : Ty}
    (hfacts : facts ∅ ∅) (ht : Revised facts bounds t t') (hu : Revised facts bounds u u') :
    Revised facts bounds (slicing t u) (slicing t' u') := by
  have href : Revised facts bounds (.ref t true) (.ref t' true) :=
    .form Bool.false_ne_true rfl hfacts (.cons ht .nil)
  have hslice : Revised facts bounds (.slice u) (.slice u') :=
    .form Bool.false_ne_true rfl hfacts (.cons hu .nil)
  exact .form Bool.false_ne_true rfl hfacts (.cons href (.cons hslice .nil))

theorem slicing_accepts_more :
    let r := slicing (.generic "T" (.ofList [TraitPath.debug, TraitPath.sized]))
      (.generic "U" (.ofList [TraitPath.hash]))
    let r' := slicing (.generic "T" ∅) (.generic "U" (.ofList [TraitPath.hash, TraitPath.sized]))
    let r'' := slicing (.generic "T" (.ofList [TraitPath.debug]))
      (.generic "U" (.ofList [TraitPath.hash, TraitPath.sized]))
    let x := slicing (gauge [TraitPath.debug]) (.generic "V" (.ofList [TraitPath.hash]))
    let x' := slicing (gauge [TraitPath.clone, TraitPath.debug])
      (.generic "V" (.ofList [TraitPath.hash, TraitPath.ord]))
    let table : TypeTable := TypeTable.empty.insert (gauge []) (gauge [TraitPath.debug])
    (Loosened r r' ∧ Resized r r'' ∧ Enriched x x' ∧ r.accepts x ∧
        table[gauge []]? = some (gauge [TraitPath.debug])) ∧
      r'.accepts x' ∧ r''.accepts x ∧ r.accepts (x.mergeTraits x') ∧
      ∃ entry, (table.discoverAll [gauge [TraitPath.clone]])[gauge []]? = some entry ∧
        shown.accepts entry := by
  intro r r' r'' x x' table
  obtain ⟨hmono, hsize, hmerge, htable⟩ := accepts_monotone
  have hloosened : Loosened r r' := by
    apply revised_slicing rfl (.generic _) (.generic _)
    · simp
    · simp +contextual
  have hresized : Resized r r'' := by
    apply revised_slicing rfl (.generic _) (.generic _)
    · simp +contextual
    · simp +contextual
  have hgauge : Enriched (gauge [TraitPath.debug]) (gauge [TraitPath.clone, TraitPath.debug]) := by
    refine .form Bool.false_ne_true rfl ?_ .nil
    simp [gauge, recorded]
  have henriched : Enriched x x' := by
    apply revised_slicing (fun _ hp => hp) hgauge (.generic _)
    simp
  have haccepts : r.accepts x := by decide
  have hentry : table[gauge []]? = some (gauge [TraitPath.debug]) :=
    Std.ExtTreeMap.getElem?_insert_self
  obtain ⟨entry, hfound, hkept⟩ := htable table _ _ hentry [gauge [TraitPath.clone]]
  exact ⟨⟨hloosened, hresized, henriched, haccepts, hentry⟩, hmono r r' x x' hloosened henriched
    haccepts, hsize r r'' x hresized ▸ haccepts, hmerge r x x' haccepts, entry, hfound,
    hkept shown (by decide)⟩

end Ty
end UnitTestGen
