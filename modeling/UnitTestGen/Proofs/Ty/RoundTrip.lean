import UnitTestGen.Proofs.Json.Omissions
import UnitTestGen.Ty.Format

/-! Types come back from their JSON, whatever members that hold a default are left out. -/

namespace UnitTestGen

open Json

namespace TraitSet

theorem ofList_toList (traits : TraitSet) : ofList traits.toList = traits :=
  Std.ExtTreeSet.ext_mem fun p => by rw [mem_ofList, Std.ExtTreeSet.mem_toList]

theorem readsAs (traits : TraitSet) (depth : Nat) :
    ReadsAs (ofJson depth) depth traits.toJson traits := by
  intro j hj hd
  have hread : asList depth (fun _ => asString) j = some traits.toList :=
    readsAs_asList (fun s _ _ => readsAs_asString s) j hj hd
  rw [ofJson, hread, Option.map_some, ofList_toList]

theorem plain_toJson (traits : TraitSet) : traits.toJson.Plain :=
  .arr (List.forall_mem_map.2 fun s _ => .str s)

theorem eq_empty_of_isDefault {key : String} {traits : TraitSet}
    (h : IsDefault key traits.toJson) : traits = ∅ :=
  Std.ExtTreeSet.toList_eq_nil_iff.1 (eq_nil_of_isDefault h)

theorem found {depth : Nat} {key : String} {traits : TraitSet} {field : Option Json}
    (h : Found depth key traits.toJson field) :
    withDefault ∅ (ofJson depth) field = some traits :=
  h.withDefault eq_empty_of_isDefault (traits.readsAs depth)

end TraitSet

theorem Prim.plain_toJson (p : Prim) : p.toJson.Plain := .str p.name

theorem Prim.readsAs (p : Prim) (depth : Nat) : ReadsAs (ofJson depth) depth p.toJson p := by
  rintro _ ⟨⟩ _
  cases depth <;> exact Prim.ofName?_name p

namespace Ty

theorem exists_toJson_eq (t : Ty) : ∃ members, t.toJson = .obj members := by
  unfold toJson
  split <;> exact ⟨_, rfl⟩

theorem toJson_ne_null (t : Ty) : t.toJson ≠ .null := by
  obtain ⟨members, h⟩ := t.exists_toJson_eq
  simp [h]

theorem not_isDefault_toJson {key : String} (t : Ty) : ¬ IsDefault key t.toJson := by
  obtain ⟨members, h⟩ := t.exists_toJson_eq
  rw [h]
  rintro ⟨⟩

theorem toJson_fn (ps : List Ty) (r : Option Ty) : (fn ps r).toJson =
    .obj [("fn", .obj [("params", .arr (toJsonAll ps)), ("ret", .ofOption toJson r)])] := by
  cases r <;> rfl

theorem many_eq_asList (depth : Nat) (j : Json) : ofJson.many depth j = asList depth ofJson j := by
  cases depth <;> cases j <;> rfl

theorem ofJson_adt (k : Nominal) (depth : Nat) (payload : Json) :
    ofJson (depth + 2) (.obj [(k.tag, payload)]) = (do
      let field ← fields? ["name", "generics", "traits"] payload
      let name ← required asString (field "name")
      let generics ← withDefault [] (ofJson.many depth) (field "generics")
      let traits ← withDefault ∅ (TraitSet.ofJson depth) (field "traits")
      some (adt k name generics traits)) := by
  cases k <;> rfl

theorem many_readsAs {ts : List Ty}
    (h : ∀ t ∈ ts, ∀ depth, ReadsAs (ofJson depth) depth t.toJson t) (depth : Nat) :
    ReadsAs (ofJson.many depth) depth (.arr (toJsonAll ts)) ts := by
  intro j hj hd
  rw [toJsonAll_eq_map] at hj
  rw [many_eq_asList]
  exact readsAs_asList h j hj hd

theorem found_many {ts : List Ty}
    (h : ∀ t ∈ ts, ∀ depth, ReadsAs (ofJson depth) depth t.toJson t) {depth : Nat} {key : String}
    {field : Option Json} (hf : Found depth key (.arr (toJsonAll ts)) field) :
    withDefault [] (ofJson.many depth) field = some ts := by
  refine hf.withDefault (fun hkey => ?_) (many_readsAs h depth)
  rw [toJsonAll_eq_map] at hkey
  exact eq_nil_of_isDefault hkey

theorem found_optional {t : Option Ty}
    (h : ∀ u ∈ t, ∀ depth, ReadsAs (ofJson depth) depth u.toJson u) {depth : Nat} {key : String}
    {field : Option Json} (hf : Found depth key (.ofOption toJson t) field) :
    withDefault none (nullable (ofJson depth)) field = some t :=
  hf.withDefault (eq_none_of_isDefault not_isDefault_toJson)
    (readsAs_nullable toJson_ne_null fun u hu => h u hu depth)

theorem readsAs (t : Ty) : ∀ depth, ReadsAs (ofJson depth) depth t.toJson t := by
  induction t using Ty.induction with
  | prim p =>
    intro depth j hj hd
    obtain ⟨inner, payload, rfl, rfl, hp, hin⟩ := thinned_choice (not_isDefault (by decide)) hj hd
    rw [ofJson, p.readsAs inner payload hp hin, Option.map_some]
  | adt k n gs tr ih =>
    intro depth j hj hd
    obtain ⟨inner, payload, field, rfl, rfl, hfields, hfound⟩ := thinned_recordChoice
      (not_isDefault (by cases k <;> decide)) ["name", "generics", "traits"] rfl (by decide) hj hd
    have hname := (hfound "name" (.str n) (by simp)).string
    have hgenerics := found_many ih (hfound "generics" (.arr (toJsonAll gs)) (by simp))
    have htraits := TraitSet.found (hfound "traits" tr.toJson (by simp))
    simp only [ofJson_adt, hfields, hname, hgenerics, htraits, Option.bind_eq_bind, Option.bind_some]
  | tuple ts ih =>
    intro depth j hj hd
    obtain ⟨inner, payload, rfl, rfl, hp, hin⟩ := thinned_choice (not_isDefault (by decide)) hj hd
    rw [ofJson, many_readsAs ih inner payload hp hin, Option.map_some]
  | array t n ih =>
    intro depth j hj hd
    obtain ⟨inner, payload, field, rfl, rfl, hfields, hfound⟩ := thinned_recordChoice
      (not_isDefault (by decide)) ["elem", "len"] rfl (by decide) hj hd
    have helem := (hfound "elem" t.toJson (by simp)).required (not_isDefault (by decide))
      (ih inner)
    have hlen := (hfound "len" (.ofNat n.toNat) (by simp)).required (not_isDefault (by decide))
      (readsAs_asUInt64 n)
    simp only [ofJson, hfields, helem, hlen, Option.bind_eq_bind, Option.bind_some]
  | slice t ih =>
    intro depth j hj hd
    obtain ⟨inner, payload, rfl, rfl, hp, hin⟩ := thinned_choice (not_isDefault (by decide)) hj hd
    rw [ofJson, ih inner payload hp hin, Option.map_some]
  | ref t m ih =>
    intro depth j hj hd
    obtain ⟨inner, payload, field, rfl, rfl, hfields, hfound⟩ := thinned_recordChoice
      (not_isDefault (by decide)) ["inner", "mutable"] rfl (by decide) hj hd
    have hinner := (hfound "inner" t.toJson (by simp)).required (not_isDefault (by decide))
      (ih inner)
    have hmutable := (hfound "mutable" (.bool m) (by simp)).required (not_isDefault (by decide))
      (readsAs_asBool m)
    simp only [ofJson, hfields, hinner, hmutable, Option.bind_eq_bind, Option.bind_some]
  | generic n b =>
    intro depth j hj hd
    obtain ⟨inner, payload, field, rfl, rfl, hfields, hfound⟩ := thinned_recordChoice
      (not_isDefault (by decide)) ["name", "bounds"] rfl (by decide) hj hd
    have hname := (hfound "name" (.str n) (by simp)).string
    have hbounds := TraitSet.found (hfound "bounds" b.toJson (by simp))
    simp only [ofJson, hfields, hname, hbounds, Option.bind_eq_bind, Option.bind_some]
  | traitObj n b =>
    intro depth j hj hd
    obtain ⟨inner, payload, field, rfl, rfl, hfields, hfound⟩ := thinned_recordChoice
      (not_isDefault (by decide)) ["name", "bounds"] rfl (by decide) hj hd
    have hname := (hfound "name" (.str n) (by simp)).string
    have hbounds := TraitSet.found (hfound "bounds" b.toJson (by simp))
    simp only [ofJson, hfields, hname, hbounds, Option.bind_eq_bind, Option.bind_some]
  | fn ps r ihps ihr =>
    intro depth j hj hd
    rw [toJson_fn] at hj
    obtain ⟨inner, payload, field, rfl, rfl, hfields, hfound⟩ := thinned_recordChoice
      (not_isDefault (by decide)) ["params", "ret"] rfl (by decide) hj hd
    have hparams := found_many ihps (hfound "params" (.arr (toJsonAll ps)) (by simp))
    have hret := found_optional ihr (hfound "ret" (.ofOption toJson r) (by simp))
    simp only [ofJson, hfields, hparams, hret, Option.bind_eq_bind, Option.bind_some]

theorem plain_toJson (t : Ty) : t.toJson.Plain := by
  have hall {ts : List Ty} (h : ∀ t ∈ ts, t.toJson.Plain) : (Json.arr (toJsonAll ts)).Plain := by
    rw [toJsonAll_eq_map]
    exact .arr (List.forall_mem_map.2 h)
  induction t using Ty.induction with
  | prim p => exact .choice p.plain_toJson
  | adt k n gs tr ih =>
    exact .choice (.obj (by simp [hall ih, tr.plain_toJson, Plain.str]))
  | tuple ts ih => exact .choice (hall ih)
  | array t n ih => exact .choice (.obj (by simp [ih, Plain.integer, Json.ofNat]))
  | slice t ih => exact .choice ih
  | ref t m ih => exact .choice (.obj (by simp [ih, Plain.bool]))
  | generic n b => exact .choice (.obj (by simp [b.plain_toJson, Plain.str]))
  | traitObj n b => exact .choice (.obj (by simp [b.plain_toJson, Plain.str]))
  | fn ps r ihps ihr =>
    rw [toJson_fn]
    exact .choice (.obj (by simp [hall ihps, Plain.ofOption ihr]))

end Ty
end UnitTestGen
