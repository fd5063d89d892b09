import UnitTestGen.Proofs.Ty.Parts

/-! Acceptance as an order on types. Every type accepts itself. What accepts a type accepts what that
type accepts, as long as no struct or enum further along has lost a trait; a bound is checked
against the traits of what stands there, and these are computed from the traits recorded below. -/

namespace UnitTestGen

namespace Ty

theorem accepts_refl (t : Ty) : t.accepts t := by
  induction t using form_induction with
  | generic n b => exact generic_accepts_iff.2 fun p hp _ => hp
  | form t ht ih => exact (accepts_iff ht).2 ⟨.refl _, List.forall₂_same.2 ih⟩

/-- Wherever a struct or an enum in the first type accepts one in the second, the traits recorded on
the former are recorded on the latter too. -/
def TraitsKept (b c : Ty) : Prop :=
  ∀ k n gs tr, adt k n gs tr ∈ b.nodes → ∀ k' n' gs' tr', adt k' n' gs' tr' ∈ c.nodes →
    (adt k n gs tr).accepts (adt k' n' gs' tr') → ∀ p ∈ tr, p ∈ tr'

theorem TraitsKept.part {b c p q : Ty} (h : TraitsKept b c) (hp : p ∈ b.parts) (hq : q ∈ c.parts) :
    TraitsKept p q :=
  fun k n gs tr hx k' n' gs' tr' hy =>
    h k n gs tr (nodes_subset hp hx) k' n' gs' tr' (nodes_subset hq hy)

theorem mem_traits_ref {t : Ty} {m : Bool} {p : String} (hp : p ≠ TraitPath.sized) :
    p ∈ (ref t m).traits ↔
      if p = TraitPath.copy ∨ p = TraitPath.clone then m = false else p ∈ t.traits := by
  cases m <;> simp [traits] <;> grind

theorem mem_traits_of_accepts {b c : Ty} (hk : TraitsKept b c) (h : b.accepts c) {p : String}
    (hs : p ≠ TraitPath.sized) (hp : p ∈ b.traits) : p ∈ c.traits := by
  induction b using Ty.induction generalizing c with
  | generic n bounds => exact generic_accepts_iff.1 h p hp hs
  | adt k n gs tr _ =>
    cases c with
    | adt k' n' gs' tr' => exact hk _ _ _ _ (self_mem_nodes _) _ _ _ _ (self_mem_nodes _) h p hp
    | _ => simp [accepts] at h
  | ref t m ih =>
    cases c with
    | ref u m' =>
      obtain ⟨rfl, ht⟩ : m = m' ∧ t.accepts u := by simpa [accepts] using h
      have hk' : TraitsKept t u := hk.part (.head _) (.head _)
      rw [mem_traits_ref hs] at hp ⊢
      split at hp
      · rwa [if_pos ‹_›]
      · rw [if_neg ‹_›]
        exact ih hk' ht hp
    | _ => simp [accepts] at h
  | prim q =>
    cases c with
    | prim q' =>
      obtain rfl : q = q' := by simpa [accepts] using h
      exact hp
    | _ => simp [accepts] at h
  | traitObj n bounds =>
    cases c with
    | traitObj n' bounds' =>
      obtain ⟨_, hbounds⟩ := ((accepts_iff (by simp [isGeneric])).1 h).1
      exact hbounds p hp
    | _ => simp [accepts] at h
  | _ => simp [traits] at hp

theorem accepts_trans {a b c : Ty} (hk : TraitsKept b c) (hab : a.accepts b) (hbc : b.accepts c) :
    a.accepts c := by
  induction a using form_induction generalizing b c with
  | generic n bounds =>
    -- only here do traits come in; the bounds were checked against those of the middle type
    rw [generic_accepts_iff] at hab ⊢
    exact fun p hp hs => mem_traits_of_accepts hk hbc hs (hab p hp hs)
  | form a ha ih =>
    obtain ⟨hform, hparts⟩ := (accepts_iff ha).1 hab
    have hb : ¬ b.isGeneric := not_isGeneric_of_fits hform ha
    obtain ⟨hform', hparts'⟩ := (accepts_iff hb).1 hbc
    refine (accepts_iff ha).2 ⟨hform.trans hform', forall₂_trans_of_mem ?_ hparts hparts'⟩
    intro p hp q hq r hr hpq hqr
    exact ih p hp (hk.part hq hr) hpq hqr

/-- Acceptance is reflexive, and it is transitive where traits are kept. -/
theorem accepts_preorder :
    (∀ a : Ty, a.accepts a) ∧
      ∀ a b c : Ty, TraitsKept b c → a.accepts b → b.accepts c → a.accepts c :=
  ⟨accepts_refl, fun _ _ _ => accepts_trans⟩

def gauge (traits : List String) : Ty := .adt .struct "Gauge" [] (.ofList traits)

def shown : Ty := .generic "T" (.ofList [TraitPath.debug])

theorem traitsKept_gauge :
    TraitsKept (.ref (gauge [TraitPath.debug]) false)
      (.ref (gauge [TraitPath.clone, TraitPath.debug]) false) := by
  intro k n gs tr hx k' n' gs' tr' hy _ p hp
  obtain ⟨_, _, _, rfl⟩ : k = .struct ∧ n = "Gauge" ∧ gs = [] ∧
      tr = .ofList [TraitPath.debug] := by
    simpa [gauge, nodes, nodesAll] using hx
  obtain ⟨_, _, _, rfl⟩ : k' = .struct ∧ n' = "Gauge" ∧ gs' = [] ∧
      tr' = .ofList [TraitPath.clone, TraitPath.debug] := by
    simpa [gauge, nodes, nodesAll] using hy
  rw [TraitSet.mem_ofList] at hp ⊢
  exact .tail _ hp

theorem shown_accepts_gauge :
    TraitsKept (.ref (gauge [TraitPath.debug]) false)
        (.ref (gauge [TraitPath.clone, TraitPath.debug]) false) ∧
      (Ty.ref shown false).accepts (.ref (gauge [TraitPath.clone, TraitPath.debug]) false) := by
  refine ⟨traitsKept_gauge, ?_⟩
  exact accepts_preorder.2 _ (.ref (gauge [TraitPath.debug]) false) _ traitsKept_gauge (by decide)
    (by decide)

example : shown.accepts (gauge [TraitPath.debug]) ∧ (gauge [TraitPath.debug]).accepts (gauge []) ∧
    ¬ shown.accepts (gauge []) := by
  decide

end Ty
end UnitTestGen
