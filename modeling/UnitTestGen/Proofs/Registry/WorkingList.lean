import Mathlib.Data.List.Basic
import UnitTestGen.Registry.Basic

/-! The working list of a registry. Before it is shuffled it is the built-in callables followed by
what a list contributes besides them, so that two lists which contribute the same make one registry,
and shuffling only changes the order. -/

namespace UnitTestGen

section KeepFirst

variable {α : Type} [DecidableEq α]

theorem keepFirst_filter (p : α → Bool) (as : List α) :
    keepFirst (as.filter p) = (keepFirst as).filter p := by
  induction as with
  | nil => rfl
  | cons a as ih =>
    by_cases ha : p a
    · rw [List.filter_cons_of_pos ha, keepFirst, keepFirst, List.filter_cons_of_pos ha, ih,
        List.filter_comm]
    · -- nothing that satisfies the condition is an `a`
      have hne : ∀ b, (p b && decide (b ≠ a)) = p b := by
        intro b
        by_cases hb : b = a
        · subst hb
          simp [ha]
        · simp [hb]
      rw [List.filter_cons_of_neg ha, keepFirst, List.filter_cons_of_neg ha, ih, List.filter_filter]
      simp only [hne]

theorem keepFirst_eq_eraseDups : (as : List α) → keepFirst as = as.eraseDups
  | [] => rfl
  | a :: as => by
    have hrest := keepFirst_eq_eraseDups (as.filter (· ≠ a))
    rw [keepFirst, ← keepFirst_filter, hrest, List.eraseDups_cons]
    simp only [decide_not, Bool.beq_eq_decide_eq]
  termination_by as => as.length
  decreasing_by exact Nat.lt_succ_of_le (List.length_filter_le _ _)

theorem keepFirst_eq_self {as : List α} (h : as.Nodup) : keepFirst as = as := by
  induction as with
  | nil => rfl
  | cons a as ih =>
    obtain ⟨ha, has⟩ := List.nodup_cons.1 h
    rw [keepFirst, ih has, List.filter_eq_self.2]
    intro b hb
    exact decide_eq_true fun hba => ha (hba ▸ hb)

end KeepFirst

namespace Callable

def ReturnsBare (c : Callable) : Prop :=
  ∃ ret, c.returnType = some ret ∧
    (ret.name = some Builtin.vecPath ∨ ret.name = some Builtin.optionPath) ∧ ret.generics = []

theorem returnsBareContainer_iff {c : Callable} : c.returnsBareContainer ↔ c.ReturnsBare := by
  have hunit : ∀ {ret : Ty} {n : String}, ret.name = some n → ret.isUnit = false := by
    intro ret n h
    cases ret with
    | tuple ts => cases h
    | _ => rfl
  unfold returnsBareContainer returnsValue ReturnsBare
  cases c.returnType with
  | none => simp
  | some ret =>
    simp only [Option.any_some, Bool.and_eq_true, Bool.not_eq_true', Bool.or_eq_true, beq_iff_eq,
      List.isEmpty_iff, Option.some.injEq, exists_eq_left']
    refine and_iff_right_of_imp fun h => ?_
    rcases h.1 with hname | hname
    · exact hunit hname
    · exact hunit hname

instance : DecidablePred ReturnsBare := fun _ => decidable_of_iff _ returnsBareContainer_iff

end Callable

namespace Registry

/-- What a list has besides the built-in callables and the ones that return bare containers, without
later repeats. -/
def contributed (discovered : List Callable) : List Callable :=
  (discovered.filter fun c => ¬ c.ReturnsBare ∧ c ∉ Builtin.callables).eraseDups

theorem candidates_eq (discovered : List Callable) :
    candidates discovered = Builtin.callables ++ contributed discovered := by
  have hnames : (Builtin.callables.map Callable.name).Nodup := by decide
  have hbuiltin : Builtin.callables.eraseDups = Builtin.callables := by
    rw [← keepFirst_eq_eraseDups, keepFirst_eq_self]
    exact List.Pairwise.of_map Callable.name (fun _ _ hne heq => hne (congrArg _ heq)) hnames
  rw [candidates, keepFirst_eq_eraseDups, List.eraseDups_append, hbuiltin, contributed,
    List.removeAll, List.filter_filter]
  congr 2
  refine List.filter_congr fun c _ => ?_
  have hbare : c.returnsBareContainer = decide c.ReturnsBare := by
    rw [Bool.eq_iff_iff, Callable.returnsBareContainer_iff, decide_eq_true_iff]
  rw [hbare, Bool.eq_iff_iff]
  simp [and_comm]

theorem mem_contributed {discovered : List Callable} {c : Callable} :
    c ∈ contributed discovered ↔ c ∈ discovered ∧ ¬ c.ReturnsBare ∧ c ∉ Builtin.callables := by
  rw [contributed, List.mem_eraseDups, List.mem_filter, decide_eq_true_iff]

theorem callables_withTable_perm (discovered : List Callable) (table : TypeTable) (seed : UInt64) :
    (withTable discovered table seed).callables.Perm (candidates discovered) := by
  simp only [withTable]
  exact Shuffle.shuffle_perm seed (candidates discovered)

/-- The working list has the built-in callables and the useful ones of a list, each once, and which
registry is made depends on the list only through what it contributes. -/
theorem working_list_exact (discovered : List Callable) (table : TypeTable) (seed : UInt64) :
    (withTable discovered table seed).callables.Nodup ∧
      (∀ c, c ∈ (withTable discovered table seed).callables ↔
        c ∈ Builtin.callables ∨ c ∈ discovered ∧ ¬ c.ReturnsBare) ∧
      ∀ others, contributed others = contributed discovered →
        withTable others table seed = withTable discovered table seed := by
  have hperm := callables_withTable_perm discovered table seed
  refine ⟨hperm.nodup_iff.2 (nodup_keepFirst _), fun c => ?_, fun others hothers => ?_⟩
  · rw [hperm.mem_iff, candidates_eq, List.mem_append, mem_contributed]
    by_cases hc : c ∈ Builtin.callables <;> simp [hc]
  · have hsame : candidates others = candidates discovered := by
      rw [candidates_eq, candidates_eq, hothers]
    unfold withTable
    simp only [hsame]

def returning (name : String) (ret : Ty) : Callable where
  name := name
  kind := .function
  parent := none
  params := []
  returnType := some ret
  generics := []
  visibility := .pub
  srcFile := none
  ofTrait := none

def tick : Callable := returning "tick" .unit

def repeated : List Callable :=
  [returning "all" (.struct Builtin.vecPath []), tick, Builtin.some, tick]

theorem withTable_repeated :
    contributed repeated = contributed [tick] ∧
      withTable repeated Builtin.seededTable 7 = withTable [tick] Builtin.seededTable 7 := by
  have hbare : (returning "all" (.struct Builtin.vecPath [])).ReturnsBare :=
    ⟨_, rfl, .inl rfl, rfl⟩
  have hbuiltin : Builtin.some ∈ Builtin.callables := by simp [Builtin.callables]
  have htick : ¬ tick.ReturnsBare ∧ tick ∉ Builtin.callables := by decide
  have hsame : contributed repeated = contributed [tick] := by
    simp [contributed, repeated, hbare, hbuiltin, htick, List.eraseDups_cons]
  have hexact := working_list_exact [tick] Builtin.seededTable 7
  exact ⟨hsame, hexact.2.2 repeated hsame⟩

end Registry
end UnitTestGen
