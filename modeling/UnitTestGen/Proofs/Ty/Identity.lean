import UnitTestGen.Proofs.Ty.AcceptanceOrder
import UnitTestGen.Proofs.Ty.Wrapping
import UnitTestGen.Ty.Text

/-! The key of a type against the other questions asked of it. A type answers as its key does where
it is the one that accepts, wraps or is written down, since the traits of structs and enums are read
only on the side that is accepted. So types with one key cannot be told apart there; and types
without generic parameters that accept each other have one key. -/

namespace UnitTestGen

namespace Form

theorem Fits.antisymm {f g : Form} (hfg : f.Fits g) (hgf : g.Fits f) : f = g := by
  cases f with
  | traitObj n b =>
    cases g with
    | traitObj n' b' =>
      have hb : b = b' := Std.ExtTreeSet.ext_mem fun p => ⟨hfg.2 p, hgf.2 p⟩
      rw [hfg.1, hb]
    | _ => cases hfg
  | _ => exact hfg

end Form

namespace Ty

theorem isGeneric_key (t : Ty) : t.key.isGeneric = t.isGeneric := by
  cases t with
  | fn ps r => cases r <;> rfl
  | _ => rfl

theorem children_key (t : Ty) : t.key.children = t.children.map key := by
  cases t with
  | fn ps r => cases r <;> rfl
  | _ => simp [key, children, keyAll_eq_map]

theorem accepts_key (t u : Ty) : t.key.accepts u = t.accepts u := by
  induction t using form_induction generalizing u with
  | generic n b => rfl
  | form t ht ih =>
    have hkey : ¬ t.key.isGeneric := by rwa [isGeneric_key]
    have hparts : List.Forall₂ (fun p q => p.accepts q) t.key.parts u.parts ↔
        List.Forall₂ (fun p q => p.accepts q) t.parts u.parts := by
      rw [parts_key, List.forall₂_map_left_iff, List.forall₂_iff_zip, List.forall₂_iff_zip]
      refine and_congr_right fun _ => forall₂_congr fun p q => imp_congr_right fun hpq => ?_
      rw [ih p (List.of_mem_zip hpq).1]
    rw [Bool.eq_iff_iff, accepts_iff hkey, accepts_iff ht, form_key, hparts]

theorem acceptsIndirectly_key (t u : Ty) : t.key.acceptsIndirectly u = t.acceptsIndirectly u := by
  unfold acceptsIndirectly
  rw [children_key, List.any_map, accepts_key]
  simp [Function.comp_def, isGeneric_key, accepts_key]

theorem hit_key (u t : Ty) : Hit u t.key ↔ Hit u t := by
  rw [Hit, Hit, isGeneric_key, accepts_key]

theorem descendants_key (t : Ty) : t.key.descendants = t.descendants.map key := by
  induction t using form_induction with
  | generic n b => rfl
  | form t _ ih =>
    rw [descendants_eq, descendants_eq t, children_key, List.flatMap_map, List.map_flatMap]
    apply List.flatMap_congr
    intro c hc
    rw [List.map_cons, ih c (children_subset_parts t hc)]

theorem wraps_key (t u : Ty) : t.key.wraps u = (t.wraps u).map key := by
  rw [wraps_eq_find?, wraps_eq_find?, descendants_key, List.find?_map]
  simp only [Function.comp_def, hit_key]

theorem textList_cons_cons (t u : Ty) (us : List Ty) :
    textList (t :: u :: us) = t.text ++ ", " ++ textList (u :: us) := by
  rw [textList]
  simp

theorem textList_map_key {ts : List Ty} (h : ∀ t ∈ ts, t.key.text = t.text) :
    textList (ts.map key) = textList ts := by
  induction ts with
  | nil => rfl
  | cons t ts ih =>
    have ht : t.key.text = t.text := h t List.mem_cons_self
    have hts := ih fun u hu => h u (List.mem_cons_of_mem t hu)
    cases ts with
    | nil => exact ht
    | cons u us =>
      rw [List.map_cons] at hts
      rw [List.map_cons, List.map_cons, textList_cons_cons, textList_cons_cons, ht, hts]

theorem text_key (t : Ty) : t.key.text = t.text := by
  induction t using Ty.induction with
  | adt k n gs tr ih =>
    cases gs with
    | nil => rfl
    | cons g gs =>
      have hlist := textList_map_key ih
      rw [List.map_cons] at hlist
      rw [key, keyAll_eq_map, List.map_cons, text, text, hlist]
  | tuple ts ih =>
    have hlist := textList_map_key ih
    rcases ts with _ | ⟨t, _ | ⟨u, ts⟩⟩
    · rfl
    · -- a tuple of one element is written with a comma
      have ht : t.key.text = t.text := ih t List.mem_cons_self
      rw [key, keyAll, keyAll, text, text, ht]
    · rw [List.map_cons, List.map_cons] at hlist
      rw [key, keyAll_eq_map, List.map_cons, List.map_cons, text, text, hlist]
      · simp
      · simp
  | array t n ih => rw [key, text, text, ih]
  | slice t ih => rw [key, text, text, ih]
  | ref t m ih => cases m <;> rw [key, text, text, ih]
  | fn ps r ihp ihr =>
    have hps := textList_map_key ihp
    cases r with
    | none => rw [key, keyAll_eq_map, text, text, hps]
    | some r =>
      have hr : r.key.text = r.text := ihr r rfl
      rw [key, keyAll_eq_map, text, text, hps, hr]
  | _ => rfl

theorem varPrefix_key (t : Ty) : t.key.varPrefix = t.varPrefix := by
  induction t using Ty.induction with
  | tuple ts ih => cases ts <;> rfl
  | array t n ih => exact congrArg (· ++ "_array".toList) ih
  | slice t ih => exact congrArg (· ++ "_slice".toList) ih
  | ref t m ih => exact congrArg (· ++ "_ref".toList) ih
  | fn ps r ihp ihr => cases r <;> rfl
  | _ => rfl

theorem hasGenericParams_iff {t : Ty} (ht : ¬ t.isGeneric) :
    t.hasGenericParams ↔ ∃ p ∈ t.parts, p.hasGenericParams := by
  cases t with
  | generic n b => exact absurd rfl ht
  | fn ps r =>
    cases r <;> simp [hasGenericParams, anyGenericParams_eq_any, parts, or_and_right, exists_or]
  | _ => simp [hasGenericParams, anyGenericParams_eq_any, parts, children]

theorem not_isGeneric_of_closed {t : Ty} (ht : ¬ t.hasGenericParams) : ¬ t.isGeneric := by
  cases t with
  | generic n b => exact absurd rfl ht
  | _ => exact Bool.false_ne_true

theorem closed_of_mem_parts {t p : Ty} (ht : ¬ t.hasGenericParams) (hp : p ∈ t.parts) :
    ¬ p.hasGenericParams := by
  intro hopen
  apply ht
  exact (hasGenericParams_iff (not_isGeneric_of_closed ht)).2 ⟨p, hp, hopen⟩

theorem form_eq_of_accepts {t u : Ty} (ht : ¬ t.isGeneric) (h : t.accepts u)
    (hback : u.accepts t ∨ ∀ n b, t ≠ traitObj n b) : t.form = u.form := by
  have hfits : t.form.Fits u.form := ((accepts_iff ht).1 h).1
  rcases hback with hback | hobj
  · have hu : ¬ u.isGeneric := not_isGeneric_of_fits hfits ht
    have hfits' : u.form.Fits t.form := ((accepts_iff hu).1 hback).1
    exact hfits.antisymm hfits'
  · apply hfits.eq
    intro n b hform
    cases t with
    | traitObj m b' => exact hobj m b' rfl
    | _ => cases hform

theorem sameStructure_of_accepts {t u : Ty} (ht : ¬ t.hasGenericParams) (h : t.accepts u)
    (hback : u.accepts t ∨ ∀ n b, traitObj n b ∉ t.nodes) : t.sameStructure u := by
  induction t using form_induction generalizing u with
  | generic n b => exact absurd rfl ht
  | form t hgen ih =>
    obtain ⟨hfits, hparts⟩ := (accepts_iff hgen).1 h
    have hform : t.form = u.form := by
      apply form_eq_of_accepts hgen h
      refine hback.imp_right fun hobj n b ht => ?_
      exact hobj n b (ht ▸ self_mem_nodes t)
    refine sameStructure_iff.2 ⟨hform, List.forall₂_iff_zip.2 ⟨hparts.length_eq, ?_⟩⟩
    intro p q hpq
    have hp : p ∈ t.parts := (List.of_mem_zip hpq).1
    have hclosed : ¬ p.hasGenericParams := closed_of_mem_parts ht hp
    apply ih p hp hclosed (List.forall₂_zip hparts hpq)
    rcases hback with hback | hobj
    · have hu : ¬ u.isGeneric := not_isGeneric_of_fits hfits hgen
      have hparts' := ((accepts_iff hu).1 hback).2
      exact .inl (List.forall₂_zip hparts'.flip hpq)
    · exact .inr fun n b hb => hobj n b (nodes_subset hp hb)

theorem sameStructure_comm {t u : Ty} : t.sameStructure u ↔ u.sameStructure t := by
  rw [sameStructure, sameStructure, beq_iff_eq, beq_iff_eq]
  exact eq_comm

theorem accepts_of_sameStructure {t u : Ty} (h : t.sameStructure u) : t.accepts u := by
  have hkey : t.key = u.key := beq_iff_eq.1 h
  rw [← accepts_key, hkey, accepts_key]
  exact accepts_refl u

theorem accepts_comm_of_closed {t u : Ty} (ht : ¬ t.hasGenericParams)
    (hobj : ∀ n b, traitObj n b ∉ t.nodes) (h : t.accepts u) : u.accepts t :=
  accepts_of_sameStructure (sameStructure_comm.1 (sameStructure_of_accepts ht h (.inr hobj)))

/-- Types of one structure accept each other and answer alike to whatever they are asked to accept,
to hold or to wrap, and are written alike. Types without generic parameters that accept each other
are of one structure, and where there are no trait objects either, acceptance in one direction is
enough for that. -/
theorem structure_exact (t u : Ty) :
    (t.sameStructure u →
      (t.accepts u ∧ u.accepts t) ∧
      (∀ x, t.accepts x = u.accepts x ∧ t.acceptsIndirectly x = u.acceptsIndirectly x ∧
        (t.wraps x).isSome = (u.wraps x).isSome) ∧
      t.text = u.text ∧ t.varPrefix = u.varPrefix) ∧
    (¬ t.hasGenericParams → ¬ u.hasGenericParams →
      (t.accepts u → u.accepts t → t.sameStructure u) ∧
      ((∀ n b, traitObj n b ∉ t.nodes) → (∀ n b, traitObj n b ∉ u.nodes) →
        (t.accepts u → t.sameStructure u) ∧ (t.accepts u ↔ u.accepts t))) := by
  refine ⟨fun h => ?_, fun ht hu => ⟨?_, fun hobj hobj' => ⟨?_, ?_⟩⟩⟩
  · have hkey : t.key = u.key := beq_iff_eq.1 h
    refine ⟨⟨accepts_of_sameStructure h, accepts_of_sameStructure (sameStructure_comm.1 h)⟩,
      fun x => ⟨?_, ?_, ?_⟩, ?_, ?_⟩
    · rw [← accepts_key, hkey, accepts_key]
    · rw [← acceptsIndirectly_key, hkey, acceptsIndirectly_key]
    · have hwraps : (t.wraps x).map key = (u.wraps x).map key := by
        rw [← wraps_key, hkey, wraps_key]
      simpa using congrArg Option.isSome hwraps
    · rw [← text_key, hkey, text_key]
    · rw [← varPrefix_key, hkey, varPrefix_key]
  · intro htu hut
    exact sameStructure_of_accepts ht htu (.inl hut)
  · intro htu
    exact sameStructure_of_accepts ht htu (.inr hobj)
  · exact ⟨accepts_comm_of_closed ht hobj, accepts_comm_of_closed hu hobj'⟩

def meter (traits : List String) : Ty :=
  .fn [.ref (gauge traits) true] (some (.tuple [gauge traits, .prim .u8]))

def drawing (traits : List String) : Ty :=
  .tuple [.slice (gauge traits), .traitObj "Shape" (.ofList [TraitPath.debug])]

theorem meter_told_by_key :
    (meter [TraitPath.debug]).accepts (meter []) ∧
      (meter [TraitPath.debug]).sameStructure (meter []) ∧
      (drawing []).accepts (drawing [TraitPath.debug]) ∧
      (drawing [TraitPath.debug]).accepts (drawing []) ∧
      (drawing []).sameStructure (drawing [TraitPath.debug]) ∧
      (drawing []).text = (drawing [TraitPath.debug]).text := by
  have hmeter : ∀ traits n b, traitObj n b ∉ (meter traits).nodes := by
    intro traits n b
    simp [meter, gauge, nodes, nodesAll]
  have hsame := (((structure_exact (meter [TraitPath.debug]) (meter [])).2 (by decide)
    (by decide)).2 (hmeter _) (hmeter _)).1 (by decide)
  have hdrawing := ((structure_exact (drawing []) (drawing [TraitPath.debug])).2 (by decide)
    (by decide)).1 (by decide) (by decide)
  have htext := ((structure_exact _ _).1 hdrawing).2.2.1
  exact ⟨by decide, hsame, by decide, by decide, hdrawing, htext⟩

example : (traitObj "Shape" ∅).accepts (traitObj "Shape" (.ofList [TraitPath.debug])) ∧
    ¬ (traitObj "Shape" ∅).sameStructure (traitObj "Shape" (.ofList [TraitPath.debug])) := by
  decide

end Ty
end UnitTestGen
