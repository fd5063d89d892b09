import UnitTestGen.Proofs.Host.Rewriting
import UnitTestGen.Proofs.Ty.RoundTrip
import UnitTestGen.Registry.Load

/-! Lists of callables come back from their JSON text. What is written is read member by member,
with the members that were left out in their defaults, as deep as reading goes; and a file with the
text is loaded as the list. -/

namespace UnitTestGen

open Json

namespace Param

theorem readsAs (p : Param) (depth : Nat) : ReadsAs (ofJson depth) depth p.toJson p := by
  intro j hj hd
  obtain ⟨inner, field, rfl, hfields, hfound⟩ :=
    fields?_of_thinned ["name", "ty"] rfl (by decide) hj hd
  have hname := (hfound "name" (.ofOption .str p.name) (by simp)).optionalString
  have hty := (hfound "ty" p.ty.toJson (by simp)).required (not_isDefault (by decide))
    (p.ty.readsAs inner)
  simp only [ofJson, hfields, hname, hty, Option.bind_eq_bind, Option.bind_some]

theorem plain_toJson (p : Param) : p.toJson.Plain :=
  .obj (by simp [p.ty.plain_toJson, Plain.ofOption fun s (_ : s ∈ p.name) => Plain.str s])

end Param

namespace Visibility

theorem readsAs (v : Visibility) (depth : Nat) : ReadsAs (ofJson depth) depth v.toJson v := by
  intro j hj _
  cases v <;> cases hj <;> cases depth <;> rfl

theorem plain_toJson (v : Visibility) : v.toJson.Plain := by
  cases v <;> exact .str _

end Visibility

namespace CallableKind

theorem readsAs (k : CallableKind) (depth : Nat) : ReadsAs (ofJson depth) depth k.toJson k := by
  intro j hj hd
  cases k with
  | enumInit variant =>
    obtain ⟨inner, payload, field, rfl, rfl, hfields, hfound⟩ := thinned_recordChoice
      (not_isDefault (by decide)) ["variant"] rfl (by decide) hj hd
    have hvariant := (hfound "variant" (.str variant) (by simp)).string
    -- a record is not null, so this is no choice without payload
    have htag : tag? (inner + 2) (.obj [("enum_init", payload)]) = none := by
      cases payload <;> first | rfl | cases hfields
    unfold ofJson
    rw [htag]
    simp only [hfields, hvariant, Option.bind_eq_bind, Option.bind_some]
  | function | method | staticMethod | structInit =>
    cases hj
    cases depth <;> rfl

theorem plain_toJson (k : CallableKind) : k.toJson.Plain := by
  cases k with
  | enumInit variant => exact .choice (.choice (.str variant))
  | function | method | staticMethod | structInit => exact .str _

end CallableKind

namespace Callable

theorem readsAs (c : Callable) (depth : Nat) : ReadsAs (ofJson depth) depth c.toJson c := by
  intro j hj hd
  obtain ⟨inner, field, rfl, hfields, hfound⟩ :=
    fields?_of_thinned fieldNames rfl (by decide) hj hd
  have hname := (hfound "name" (.str c.name) (by simp)).string
  have hkind := (hfound "kind" c.kind.toJson (by simp)).required (not_isDefault (by decide))
    (c.kind.readsAs inner)
  have hparams := (hfound "params" (.arr (c.params.map Param.toJson)) (by simp)).withDefault
    eq_nil_of_isDefault (readsAs_asList fun p _ => p.readsAs)
  have hgenerics := (hfound "generics" (.arr (c.generics.map Ty.toJson)) (by simp)).withDefault
    eq_nil_of_isDefault (readsAs_asList fun t _ => t.readsAs)
  have hvisibility := (hfound "visibility" c.visibility.toJson (by simp)).required
    (not_isDefault (by decide)) (c.visibility.readsAs inner)
  have hparent := Ty.found_optional (fun t _ => t.readsAs)
    (hfound "parent" (.ofOption Ty.toJson c.parent) (by simp))
  have hreturn := Ty.found_optional (fun t _ => t.readsAs)
    (hfound "return_type" (.ofOption Ty.toJson c.returnType) (by simp))
  have hsrc := (hfound "src_file" (.ofOption .str c.srcFile) (by simp)).optionalString
  have htrait := (hfound "of_trait" (.ofOption .str c.ofTrait) (by simp)).optionalString
  simp only [ofJson, hfields, hname, hkind, hparent, hparams, hreturn, hgenerics, hvisibility, hsrc,
    htrait, Option.bind_eq_bind, Option.bind_some]

theorem plain_toJson (c : Callable) : c.toJson.Plain := by
  have htext (s : Option String) : (Json.ofOption Json.str s).Plain :=
    .ofOption fun s _ => .str s
  have hty (t : Option Ty) : (Json.ofOption Ty.toJson t).Plain :=
    .ofOption fun t _ => t.plain_toJson
  have hparams : (Json.arr (c.params.map Param.toJson)).Plain :=
    .arr (List.forall_mem_map.2 fun p _ => p.plain_toJson)
  have hgenerics : (Json.arr (c.generics.map Ty.toJson)).Plain :=
    .arr (List.forall_mem_map.2 fun t _ => t.plain_toJson)
  exact .obj (by simp [Plain.str, c.kind.plain_toJson, c.visibility.plain_toJson, htext, hty,
    hparams, hgenerics])

def listToJson (cs : List Callable) : Json := .arr (cs.map toJson)

theorem plain_listToJson (cs : List Callable) : (listToJson cs).Plain :=
  .arr (List.forall_mem_map.2 fun c _ => c.plain_toJson)

theorem listOfText_of_thinned {cs : List Callable} {j : Json} (hj : Thinned (listToJson cs) j)
    (hd : j.nestsWithin maxDepth) : listOfText (compact j) = some cs := by
  rw [listOfText, ofText_compact ((plain_listToJson cs).of_thinned hj), Option.bind_some]
  exact readsAs_asList (fun c _ => c.readsAs) j hj hd

theorem run_loadCallables {W : Type} [Host (StateM W)] {path text : String} {w w' : W}
    {cs : List Callable} (hread : (Host.readFile path : StateM W _).run w = (.ok text.toUTF8, w'))
    (h : listOfText text = some cs) : (loadCallables path : StateM W _).run w = (.ok cs, w') := by
  unfold loadCallables
  rw [run_bind_of_eq (run_readText_of_eq hread)]
  dsimp only
  rw [h]
  rfl

/-- A list of callables that nests no deeper than reading goes is read back from its text, and so it
is from the text of whatever is left of its JSON when members that hold a default are left out
anywhere; and it is loaded from every file with such a text. -/
theorem round_trip_exact (cs : List Callable) (hdepth : (listToJson cs).nestsWithin maxDepth) :
    listOfText (compact (listToJson cs)) = some cs ∧
      ∀ j, Thinned (listToJson cs) j → listOfText (compact j) = some cs ∧
        ∀ {W : Type} [Host (StateM W)] {path : String} {w w' : W},
          (Host.readFile path : StateM W _).run w = (.ok (compact j).toUTF8, w') →
            (loadCallables path : StateM W _).run w = (.ok cs, w') := by
  have hread {j : Json} (hj : Thinned (listToJson cs) j) : listOfText (compact j) = some cs :=
    listOfText_of_thinned hj (hj.nestsWithin hdepth)
  refine ⟨hread (plain_listToJson cs).thinned_self, fun j hj => ⟨hread hj, ?_⟩⟩
  intro W _ path w w' hfile
  exact run_loadCallables hfile (hread hj)

def optionTy : Ty := .enum "Option" [.generic "T" ∅]

def wrapSome : Callable :=
  ⟨"Some", .enumInit "Some", some optionTy, [⟨none, .generic "T" ∅⟩], some optionTy, [], .pub, none,
    none⟩

def bareGeneric : Json := .obj [("generic", .obj [("name", .str "T")])]

def bareOption : Json :=
  .obj [("enum", .obj [("name", .str "Option"), ("generics", .arr [bareGeneric])])]

def bareSome : Json :=
  .obj [("name", .str "Some"), ("kind", wrapSome.kind.toJson), ("parent", bareOption),
    ("params", .arr [.obj [("ty", bareGeneric)]]), ("return_type", bareOption),
    ("visibility", .str "public")]

theorem thinned_bareSome : Thinned (listToJson [wrapSome]) (.arr [bareSome]) := by
  have hgeneric : Thinned (Ty.generic "T" ∅).toJson bareGeneric :=
    .obj (.keep (.obj (.keep (.str _) (.drop (.empty (by decide)) .nil))) .nil)
  have hoption : Thinned optionTy.toJson bareOption :=
    .obj (.keep (.obj (.keep (.str _) (.keep (.arr (.cons hgeneric .nil))
      (.drop (.empty (by decide)) .nil)))) .nil)
  have hparam : Thinned (Param.toJson ⟨none, .generic "T" ∅⟩) (.obj [("ty", bareGeneric)]) :=
    .obj (.drop (.null (by decide)) (.keep hgeneric .nil))
  have hkind : Thinned wrapSome.kind.toJson wrapSome.kind.toJson :=
    wrapSome.kind.plain_toJson.thinned_self
  exact .arr (.cons (.obj (.keep (.str _) (.keep hkind (.keep hoption
    (.keep (.arr (.cons hparam .nil)) (.keep hoption (.drop (.empty (by decide))
      (.keep (.str _) (.drop (.null (by decide)) (.drop (.null (by decide)) .nil)))))))))) .nil)

theorem wrapSome_from_bare : (listToJson [wrapSome]).nestsWithin maxDepth ∧
    listOfText (compact (.arr [bareSome])) = some [wrapSome] := by
  have hdepth : (listToJson [wrapSome]).nestsWithin maxDepth := by decide
  exact ⟨hdepth, ((round_trip_exact [wrapSome] hdepth).2 _ thinned_bareSome).1⟩

end Callable
end UnitTestGen
