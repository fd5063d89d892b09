import Mathlib.Data.List.Basic
import UnitTestGen.Registry.Query

/-! What the questions to a registry have in common. Each selects from the working list by a
condition of its own and by what is visible from a file, and only then prefers what is local. So a
local callable that is not visible has no part in an answer, and a visible match is left out only
where another one is local. -/

namespace UnitTestGen

namespace Callable

variable {c : Callable} {t owner : Ty}

theorem returnsValue_iff : c.returnsValue ↔ ∃ ret, c.returnType = some ret ∧ ret ≠ .unit := by
  have hunit (ret : Ty) : ret.isUnit ↔ ret = .unit := by
    rcases ret with _ | _ | ⟨_ | _⟩ | _ | _ | _ | _ | _ | _ <;> simp [Ty.isUnit, Ty.unit]
  unfold returnsValue
  cases c.returnType with
  | none => simp
  | some ret => simp [← hunit]

theorem returnsValue_and_any_iff {p : Ty → Bool} :
    (c.returnsValue && c.returnType.any p) ↔
      ∃ ret, c.returnType = some ret ∧ ret ≠ .unit ∧ p ret := by
  rw [Bool.and_eq_true, returnsValue_iff]
  cases c.returnType <;> simp

theorem takes_iff {onlyBorrowing : Bool} :
    c.takes t onlyBorrowing ↔ ∃ before p after, c.params = before ++ p :: after ∧
      (∀ q ∈ before, ¬ q.ty.accepts t) ∧ p.ty.accepts t ∧ (onlyBorrowing → p.ty.isRef) := by
  have hborrowing (p : Param) :
      (!onlyBorrowing || p.isByReference) ↔ (onlyBorrowing → p.ty.isRef) := by
    rw [Param.isByReference_eq_isRef]
    cases onlyBorrowing <;> simp
  unfold takes
  rw [Option.any_eq_true]
  simp only [List.find?_eq_some_iff_append, hborrowing, Bool.not_eq_true']
  constructor
  · rintro ⟨p, ⟨hp, before, after, hparams, hbefore⟩, href⟩
    exact ⟨before, p, after, hparams, by simpa using hbefore, hp, href⟩
  · rintro ⟨before, p, after, hparams, hbefore, hp, href⟩
    exact ⟨p, ⟨hp, before, after, hparams, by simpa using hbefore⟩, href⟩

theorem generates_iff : c.generates t ↔ ∃ ret, c.returnType = some ret ∧ ret ≠ .unit ∧
    ¬ ret.isGeneric ∧ ∃ n, ret.name = some n ∧ t.name = some n := by
  unfold generates
  rw [returnsValue_and_any_iff]
  refine exists_congr fun ret => and_congr_right fun _ => and_congr_right fun _ => ?_
  cases ret.name with
  | none => simp
  | some n => simp [eq_comm (a := t.name)]

def VisibleFrom (c : Callable) (file : Option String) : Prop :=
  ∀ f, file = some f → c.visibility = .pub ∨ c.srcFile = some f

theorem visibleFrom?_iff {file : Option String} : c.visibleFrom? file ↔ c.VisibleFrom file := by
  cases file <;> simp [visibleFrom?, VisibleFrom, isVisibleFrom, isPublic]

instance (file : Option String) : DecidablePred (VisibleFrom · file) := fun _ =>
  decidable_of_iff _ visibleFrom?_iff

end Callable

inductive Query where
  | takers (t : Ty) (onlyBorrowing onlyLocal : Bool)
  | generators (t : Ty)
  | wrappingGenerators (t : Ty)
  | ownerGenerators (owner t : Ty)

namespace Query

def Matches (q : Query) (c : Callable) : Prop :=
  match q with
  | takers t onlyBorrowing onlyLocal =>
    (∃ before p after, c.params = before ++ p :: after ∧ (∀ q ∈ before, ¬ q.ty.accepts t) ∧
      p.ty.accepts t ∧ (onlyBorrowing → p.ty.isRef)) ∧ (onlyLocal → c.isLocal)
  | generators t => ∃ ret, c.returnType = some ret ∧ ret ≠ .unit ∧
    ¬ ret.isGeneric ∧ ∃ n, ret.name = some n ∧ t.name = some n
  | wrappingGenerators t => ∃ ret, c.returnType = some ret ∧ ret ≠ .unit ∧
    ∃ part, ret.wraps t = some part
  | ownerGenerators owner t => (∃ p, c.parent = some p ∧ p.sameStructure owner) ∧
    ∃ ret, c.returnType = some ret ∧ ret ≠ .unit ∧ ret.acceptsIndirectly t

def test (q : Query) (c : Callable) : Bool :=
  match q with
  | takers t onlyBorrowing onlyLocal => c.takes t onlyBorrowing && (!onlyLocal || c.isLocal)
  | generators t => c.generates t
  | wrappingGenerators t => c.generatesWrapped t
  | ownerGenerators owner t => c.ownerGenerates owner t

theorem test_iff {q : Query} {c : Callable} : q.test c ↔ q.Matches c := by
  cases q with
  | takers t onlyBorrowing onlyLocal =>
    rw [test, Matches, Bool.and_eq_true, Callable.takes_iff]
    cases onlyLocal <;> simp
  | generators t => exact Callable.generates_iff
  | wrappingGenerators t =>
    simp only [test, Matches, Callable.generatesWrapped, Callable.returnsValue_and_any_iff,
      Option.isSome_iff_exists]
  | ownerGenerators owner t =>
    rw [test, Matches, Callable.ownerGenerates, Bool.and_assoc, Bool.and_eq_true,
      Callable.returnsValue_and_any_iff, Option.any_eq_true]

instance (q : Query) : DecidablePred q.Matches := fun _ => decidable_of_iff _ test_iff

end Query

namespace Registry

def answer (r : Registry) (q : Query) (file : Option String) : List Callable :=
  match q with
  | .takers t onlyBorrowing onlyLocal => r.callablesWithParam t file onlyBorrowing onlyLocal
  | .generators t => r.generatorsOf t file
  | .wrappingGenerators t => r.wrappingGeneratorsOf t file
  | .ownerGenerators owner t => r.ownerGeneratorsOf owner t file

def eligible (r : Registry) (q : Query) (file : Option String) : List Callable :=
  r.callables.filter fun c => q.Matches c ∧ c.VisibleFrom file

theorem visibleMatches_eq_eligible (r : Registry) (q : Query) (file : Option String) :
    r.visibleMatches file q.test = r.eligible q file := by
  refine List.filter_congr fun c _ => ?_
  rw [Bool.eq_iff_iff, decide_eq_true_iff, Bool.and_eq_true, Query.test_iff,
    Callable.visibleFrom?_iff]

theorem answer_eq (r : Registry) (q : Query) (file : Option String) :
    r.answer q file = preferLocal (r.eligible q file) := by
  rw [← visibleMatches_eq_eligible]
  cases q <;> rfl

theorem preferLocal_of_exists {cs : List Callable} (h : ∃ c ∈ cs, c.isLocal) :
    preferLocal cs = cs.filter Callable.isLocal := by
  rw [preferLocal, if_pos (List.any_eq_true.2 h)]

theorem preferLocal_of_forall {cs : List Callable} (h : ∀ c ∈ cs, ¬ c.isLocal) :
    preferLocal cs = cs := by
  have hnone : ¬ cs.any Callable.isLocal := by
    rw [List.any_eq_true]
    rintro ⟨c, hc, hlocal⟩
    exact h c hc hlocal
  rw [preferLocal, if_neg hnone]

theorem mem_preferLocal {cs : List Callable} {c : Callable} :
    c ∈ preferLocal cs ↔ c ∈ cs ∧ (c.isLocal ∨ ∀ d ∈ cs, ¬ d.isLocal) := by
  by_cases h : ∃ d ∈ cs, d.isLocal
  · have hsome : ¬ ∀ d ∈ cs, ¬ d.isLocal := by
      obtain ⟨d, hd, hlocal⟩ := h
      exact fun hnone => hnone d hd hlocal
    rw [preferLocal_of_exists h, List.mem_filter, or_iff_left hsome]
  · have hnone : ∀ d ∈ cs, ¬ d.isLocal := fun d hd hlocal => h ⟨d, hd, hlocal⟩
    rw [preferLocal_of_forall hnone, and_iff_left (.inr hnone)]

theorem mem_answer_iff {r : Registry} {q : Query} {file : Option String} {c : Callable} :
    c ∈ r.answer q file ↔
      c ∈ r.eligible q file ∧ (c.isLocal ∨ ∀ d ∈ r.eligible q file, ¬ d.isLocal) := by
  rw [answer_eq, mem_preferLocal]

theorem eligible_visible (r : Registry) (q : Query) (file : Option String) :
    eligible ⟨r.table, r.callables.filter (·.VisibleFrom file)⟩ q file = r.eligible q file := by
  rw [eligible, eligible, List.filter_filter]
  refine List.filter_congr fun c _ => ?_
  rw [← Bool.decide_and, decide_eq_decide, and_assoc, and_self_iff]

theorem eligible_takers_local (r : Registry) (t : Ty) (onlyBorrowing : Bool)
    (file : Option String) : r.eligible (.takers t onlyBorrowing true) file =
      (r.eligible (.takers t onlyBorrowing false) file).filter Callable.isLocal := by
  have hmatches (c : Callable) : (Query.takers t onlyBorrowing true).Matches c ↔
      c.isLocal ∧ (Query.takers t onlyBorrowing false).Matches c := by
    simp [Query.Matches, and_comm]
  rw [eligible, eligible, List.filter_filter]
  refine List.filter_congr fun c _ => ?_
  rw [Bool.eq_iff_iff, Bool.and_eq_true, decide_eq_true_iff, decide_eq_true_iff, hmatches,
    and_assoc]

theorem filter_preferLocal (cs : List Callable) :
    (preferLocal cs).filter Callable.isLocal = cs.filter Callable.isLocal := by
  unfold preferLocal
  split
  · rw [List.filter_filter]
    simp only [Bool.and_self]
  · rfl

theorem preferLocal_filter (cs : List Callable) :
    preferLocal (cs.filter Callable.isLocal) = cs.filter Callable.isLocal := by
  unfold preferLocal
  split
  · rw [List.filter_filter]
    simp only [Bool.and_self]
  · rfl

/-- An answer is the local part of what is eligible, or all of that if none of it is local. So it is
not empty while something is eligible, it does not mix local and other callables, and callables that
are not visible leave it as it is. -/
theorem preference_exact (r : Registry) (q : Query) (file : Option String) :
    ((∃ c ∈ r.eligible q file, c.isLocal) →
        r.answer q file = (r.eligible q file).filter Callable.isLocal) ∧
      ((∀ c ∈ r.eligible q file, ¬ c.isLocal) → r.answer q file = r.eligible q file) ∧
      (r.answer q file = [] → r.eligible q file = []) ∧
      ((∀ c ∈ r.answer q file, c.isLocal) ∨ ∀ c ∈ r.answer q file, ¬ c.isLocal) ∧
      (∀ c ∈ r.eligible q file, c ∉ r.answer q file → ∃ d ∈ r.eligible q file, d.isLocal) ∧
      r.answer q file = answer ⟨r.table, r.callables.filter (·.VisibleFrom file)⟩ q file ∧
      ∀ t onlyBorrowing, r.callablesWithParam t file onlyBorrowing true =
        (r.callablesWithParam t file onlyBorrowing false).filter Callable.isLocal := by
  refine ⟨fun h => ?_, fun h => ?_, fun h => ?_, ?_, fun c hc hnot => ?_, ?_, fun t borrowing => ?_⟩
  · rw [answer_eq, preferLocal_of_exists h]
  · rw [answer_eq, preferLocal_of_forall h]
  · rw [List.eq_nil_iff_forall_not_mem] at h ⊢
    have hlocal : ∀ c ∈ r.eligible q file, ¬ c.isLocal := fun c hc hl =>
      h c (mem_answer_iff.2 ⟨hc, .inl hl⟩)
    exact fun c hc => h c (mem_answer_iff.2 ⟨hc, .inr hlocal⟩)
  · by_cases h : ∃ c ∈ r.eligible q file, c.isLocal
    · obtain ⟨d, hd, hdl⟩ := h
      refine .inl fun c hc => (mem_answer_iff.1 hc).2.resolve_right fun hnone => hnone d hd hdl
    · refine .inr fun c hc hl => h ⟨c, (mem_answer_iff.1 hc).1, hl⟩
  · by_contra hnone
    exact hnot (mem_answer_iff.2 ⟨hc, .inr fun d hd hl => hnone ⟨d, hd, hl⟩⟩)
  · rw [answer_eq, answer_eq, eligible_visible]
  · have hall : r.callablesWithParam t file borrowing false = _ := r.answer_eq (.takers _ _ _) file
    have hlocal : r.callablesWithParam t file borrowing true = _ := r.answer_eq (.takers _ _ _) file
    rw [hall, hlocal, eligible_takers_local, preferLocal_filter, filter_preferLocal]

def hiddenLabel : Callable where
  name := "label"
  kind := .function
  parent := none
  params := []
  returnType := some Builtin.string
  generics := []
  visibility := .loc
  srcFile := some "src/util.rs"
  ofTrait := none

def labels : Registry := ⟨.empty, [hiddenLabel, Builtin.stringFrom]⟩

theorem answer_labels :
    ((∀ c ∈ labels.eligible (.generators Builtin.string) (some "src/lib.rs"), ¬ c.isLocal) ∧
      labels.answer (.generators Builtin.string) (some "src/lib.rs") =
        labels.eligible (.generators Builtin.string) (some "src/lib.rs") ∧
      (labels.answer (.generators Builtin.string) (some "src/lib.rs")).map (·.name) = ["from"]) ∧
    (∃ c ∈ labels.eligible (.generators Builtin.string) none, c.isLocal) ∧
      labels.answer (.generators Builtin.string) none =
        (labels.eligible (.generators Builtin.string) none).filter Callable.isLocal ∧
      (labels.answer (.generators Builtin.string) none).map (·.name) = ["label"] := by
  have houtside : ∀ c ∈ labels.eligible (.generators Builtin.string) (some "src/lib.rs"),
      ¬ c.isLocal := by decide
  have hanywhere : ∃ c ∈ labels.eligible (.generators Builtin.string) none, c.isLocal := by decide
  exact ⟨⟨houtside, (preference_exact labels _ _).2.1 houtside, by decide⟩, hanywhere,
    (preference_exact labels _ _).1 hanywhere, by decide⟩

end Registry
end UnitTestGen
