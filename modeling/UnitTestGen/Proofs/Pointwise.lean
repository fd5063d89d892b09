import Mathlib.Data.List.Forall2

/-! Lists of the same length that are related member by member. -/

namespace UnitTestGen

section Pointwise

variable {α β γ : Type} {R : α → β → Prop} {as : List α} {bs : List β}

theorem forall₂_concat {a : α} {b : β} :
    List.Forall₂ R (as ++ [a]) (bs ++ [b]) ↔ List.Forall₂ R as bs ∧ R a b := by
  induction as generalizing bs with
  | nil => cases bs <;> simp
  | cons a' as ih =>
    cases bs with
    | nil => simp
    | cons b' bs => simp [ih, and_assoc]

theorem exists_of_mem_forall₂ (h : List.Forall₂ R as bs) {b : β} (hb : b ∈ bs) :
    ∃ a ∈ as, R a b := by
  induction h with
  | nil => cases hb
  | cons hR h ih =>
    rcases List.mem_cons.1 hb with rfl | hb
    · exact ⟨_, List.mem_cons_self, hR⟩
    · obtain ⟨a, hmem, hR⟩ := ih hb
      exact ⟨a, List.mem_cons_of_mem _ hmem, hR⟩

theorem forall₂_imp_of_mem {S : α → β → Prop} (h : ∀ a ∈ as, ∀ b, R a b → S a b)
    (hR : List.Forall₂ R as bs) : List.Forall₂ S as bs := by
  apply ((List.forall₂_and_left as bs).2 ⟨h, hR⟩).imp
  rintro a b ⟨hab, hR⟩
  exact hab b hR

theorem forall₂_trans_of_mem {S : β → γ → Prop} {T : α → γ → Prop} {cs : List γ}
    (h : ∀ a ∈ as, ∀ b ∈ bs, ∀ c ∈ cs, R a b → S b c → T a c)
    (hR : List.Forall₂ R as bs) (hS : List.Forall₂ S bs cs) : List.Forall₂ T as cs := by
  induction hR generalizing cs with
  | nil =>
    cases hS
    exact .nil
  | cons hab _ ih =>
    cases hS with
    | cons hbc hS =>
      refine .cons (h _ (.head _) _ (.head _) _ (.head _) hab hbc) (ih ?_ hS)
      intro a ha b hb c hc
      exact h a (.tail _ ha) b (.tail _ hb) c (.tail _ hc)

theorem forall₂_of_mapM_eq_some {f : α → Option β} (h : as.mapM f = some bs) :
    List.Forall₂ (fun a b => f a = some b) as bs := by
  induction as generalizing bs with
  | nil =>
    cases h
    exact .nil
  | cons a as ih =>
    rw [List.mapM_cons] at h
    obtain ⟨b, hb, h⟩ := Option.bind_eq_some_iff.1 h
    obtain ⟨cs, hcs, h⟩ := Option.bind_eq_some_iff.1 h
    cases h
    exact .cons hb (ih hcs)

theorem rel_getElem?_of_forall₂ (h : List.Forall₂ R as bs) (i : Nat) :
    Option.Rel R as[i]? bs[i]? := by
  induction h generalizing i with
  | nil => exact .none
  | cons hab _ ih =>
    cases i with
    | zero => exact .some hab
    | succ i => exact ih i

theorem rel_find?_of_forall₂ {p : α → Bool} {q : β → Bool} (hpq : ∀ a b, R a b → p a = q b)
    (h : List.Forall₂ R as bs) : Option.Rel R (as.find? p) (bs.find? q) := by
  induction h with
  | nil => exact .none
  | @cons a b _ _ hab _ ih =>
    rw [List.find?_cons, List.find?_cons, hpq a b hab]
    cases q b with
    | true => exact .some hab
    | false => exact ih

end Pointwise
end UnitTestGen
