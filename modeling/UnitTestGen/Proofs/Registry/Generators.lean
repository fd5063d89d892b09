import UnitTestGen.Proofs.Registry.Preference
import UnitTestGen.Proofs.Ty.Wrapping

/-! Three questions look for callables that make a value of a type: by the name of what they
return, by what they return somewhere below its top, and, for the callables of an owner, by what
they return one level down. For a type with a name the first two together find whatever the third
one finds, bare generic parameters apart: what accepts such a type and is no parameter has its name,
and a part that accepts it is found on the way down. A type without a name, such as a tuple, is
found by the second question only. -/

namespace UnitTestGen

namespace Ty

variable {t u : Ty}

theorem name_eq_of_fits (h : t.form.Fits u.form) : t.name = u.name := by
  cases t <;> cases u <;> simp_all [form, Form.Fits, name]

theorem name_eq_of_accepts (ht : ¬ t.isGeneric) (h : t.accepts u) : t.name = u.name :=
  name_eq_of_fits ((accepts_iff ht).1 h).1

end Ty

namespace Query

variable {c : Callable} {ret t : Ty}

theorem generators_matches_of_accepts (hret : c.returnType = some ret) (hunit : ret ≠ .unit)
    (hgen : ¬ ret.isGeneric) (ht : t.name.isSome) (h : ret.accepts t) :
    (generators t).Matches c := by
  obtain ⟨n, hn⟩ := Option.isSome_iff_exists.1 ht
  exact ⟨ret, hret, hunit, hgen, n, (Ty.name_eq_of_accepts hgen h).trans hn, hn⟩

theorem wrappingGenerators_matches_of_part (hret : c.returnType = some ret) (hunit : ret ≠ .unit)
    (h : ∃ p ∈ ret.children, Ty.Hit t p) : (wrappingGenerators t).Matches c := by
  have hwraps : (ret.wraps t).isSome := Ty.wraps_isSome_of_children h
  exact ⟨ret, hret, hunit, Option.isSome_iff_exists.1 hwraps⟩

theorem not_isGeneric_of_matches (hret : c.returnType = some ret)
    (h : (generators t).Matches c ∨ (wrappingGenerators t).Matches c) : ¬ ret.isGeneric := by
  rcases h with ⟨ret', hret', -, hgen, -⟩ | ⟨ret', hret', -, part, hwraps⟩
  · obtain rfl : ret = ret' := Option.some.inj (hret.symm.trans hret')
    exact hgen
  · obtain rfl : ret = ret' := Option.some.inj (hret.symm.trans hret')
    cases ret with
    | generic n b => exact nomatch (Ty.wraps_generic n b t).symm.trans hwraps
    | _ => exact Bool.false_ne_true

theorem matches_iff_not_isGeneric (ht : t.name.isSome) (hret : c.returnType = some ret)
    (hunit : ret ≠ .unit) (h : ret.acceptsIndirectly t) :
    (generators t).Matches c ∨ (wrappingGenerators t).Matches c ↔ ¬ ret.isGeneric := by
  refine ⟨not_isGeneric_of_matches hret, fun hgen => ?_⟩
  rcases Ty.acceptsIndirectly_iff.1 h with h | h
  · exact .inl (generators_matches_of_accepts hret hunit hgen ht h)
  · exact .inr (wrappingGenerators_matches_of_part hret hunit h)

end Query

namespace Registry

theorem answer_ne_nil {r : Registry} {q : Query} {file : Option String} {c : Callable}
    (hc : c ∈ r.eligible q file) : r.answer q file ≠ [] := by
  by_cases hlocal : ∃ d ∈ r.eligible q file, d.isLocal
  · obtain ⟨d, hd, hl⟩ := hlocal
    exact List.ne_nil_of_mem (mem_answer_iff.2 ⟨hd, .inl hl⟩)
  · have hnone : ∀ d ∈ r.eligible q file, ¬ d.isLocal := fun d hd hl => hlocal ⟨d, hd, hl⟩
    exact List.ne_nil_of_mem (mem_answer_iff.2 ⟨hc, .inr hnone⟩)

theorem mem_eligible_iff {r : Registry} {q : Query} {file : Option String} {c : Callable} :
    c ∈ r.eligible q file ↔ c ∈ r.callables ∧ q.Matches c ∧ c.VisibleFrom file := by
  rw [eligible, List.mem_filter, decide_eq_true_iff]

/-- For a type with a name, a callable that returns the type or holds it one level down is found by
one of the two questions about the type alone exactly if it does not return a bare generic
parameter. So if the question about an owner gives such a callable, one of the other two has an
answer. -/
theorem generators_agree_exact (r : Registry) {t : Ty} (ht : t.name.isSome) :
    (∀ c ret, c.returnType = some ret → ret ≠ .unit → ret.acceptsIndirectly t →
      ((Query.generators t).Matches c ∨ (Query.wrappingGenerators t).Matches c ↔
        ¬ ret.isGeneric)) ∧
    ∀ owner file,
      (∃ c ∈ r.ownerGeneratorsOf owner t file, ∀ ret ∈ c.returnType, ¬ ret.isGeneric) →
        r.generatorsOf t file ≠ [] ∨ r.wrappingGeneratorsOf t file ≠ [] := by
  refine ⟨fun c ret hret hunit h => Query.matches_iff_not_isGeneric ht hret hunit h, ?_⟩
  rintro owner file ⟨c, hc, hgen⟩
  have heligible : c ∈ r.eligible (.ownerGenerators owner t) file := (mem_answer_iff.1 hc).1
  obtain ⟨hmem, ⟨-, ret, hret, hunit, h⟩, hvisible⟩ := mem_eligible_iff.1 heligible
  have hmatches := (Query.matches_iff_not_isGeneric ht hret hunit h).2 (hgen ret hret)
  refine hmatches.imp (fun hm => ?_) fun hm => ?_
  · exact answer_ne_nil (q := .generators t) (mem_eligible_iff.2 ⟨hmem, hm, hvisible⟩)
  · exact answer_ne_nil (q := .wrappingGenerators t) (mem_eligible_iff.2 ⟨hmem, hm, hvisible⟩)

def connection : Ty := .struct "pool::Connection" []

def pool : Ty := .struct "pool::Pool" []

def lend : Callable where
  name := "lend"
  kind := .method
  parent := some pool
  params := [⟨some "self", .ref pool true⟩]
  returnType := some (Builtin.optionOf connection)
  generics := []
  visibility := .loc
  srcFile := some "src/pool.rs"
  ofTrait := none

def lenders : Registry := ⟨.empty, [lend, Builtin.stringFrom]⟩

theorem lend_found_wrapped :
    connection.name.isSome ∧
      (∃ c ∈ lenders.ownerGeneratorsOf pool connection (some "src/pool.rs"),
        ∀ ret ∈ c.returnType, ¬ ret.isGeneric) ∧
      lenders.generatorsOf connection (some "src/pool.rs") = [] ∧
      lenders.wrappingGeneratorsOf connection (some "src/pool.rs") ≠ [] := by
  have hname : connection.name.isSome := by decide
  have howner : ∃ c ∈ lenders.ownerGeneratorsOf pool connection (some "src/pool.rs"),
      ∀ ret ∈ c.returnType, ¬ ret.isGeneric := by decide
  have hdirect : lenders.generatorsOf connection (some "src/pool.rs") = [] := by decide
  have hany := (generators_agree_exact lenders hname).2 pool (some "src/pool.rs") howner
  exact ⟨hname, howner, hdirect, hany.resolve_left fun h => h hdirect⟩

end Registry
end UnitTestGen
