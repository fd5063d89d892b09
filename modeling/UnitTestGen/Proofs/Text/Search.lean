import Mathlib.Data.List.DropRight
import UnitTestGen.Text.Blank
import UnitTestGen.Text.Search

/-! Where a text is found in another. It is found if and only if it occurs, and a character that it
does not hold divides the search: the first occurrence lies before the character, or else it is the
first one behind it. -/

namespace UnitTestGen.Text

variable {p : List Char}

theorem cut_eq_none_iff {s : List Char} : cut p s = none ↔ ¬ p <:+: s := by
  induction s with
  | nil =>
    unfold cut
    rw [List.infix_nil, ← List.isEmpty_iff]
    cases p.isEmpty <;> simp
  | cons c s ih =>
    rw [List.infix_cons_iff, not_or, ← ih, ← List.isPrefixOf_iff_prefix, cut]
    split
    · rename_i hp
      simp [hp]
    · rename_i hp
      simp [hp]

theorem cut_self_append (hp : p ≠ []) (s : List Char) : cut p (p ++ s) = some ([], s) := by
  obtain ⟨c, q, rfl⟩ := List.exists_cons_of_ne_nil hp
  have hprefix : (c :: q).isPrefixOf (c :: q ++ s) :=
    List.isPrefixOf_iff_prefix.2 (List.prefix_append _ _)
  rw [List.cons_append] at hprefix ⊢
  rw [cut, if_pos hprefix, ← List.cons_append, List.drop_left]

theorem prefix_of_prefix_append_cons {c : Char} (hc : c ∉ p) {s t : List Char}
    (h : p <+: s ++ c :: t) : p <+: s := by
  rcases List.prefix_or_prefix_of_prefix h (List.prefix_append s (c :: t)) with hps | hsp
  · exact hps
  · obtain ⟨u, rfl⟩ := hsp
    rw [List.prefix_append_right_inj] at h
    cases u with
    | nil => exact (List.append_nil s).symm ▸ List.prefix_rfl
    | cons d u =>
      obtain ⟨rfl, _⟩ := List.cons_prefix_cons.1 h
      exact absurd (List.mem_append_right s List.mem_cons_self) hc

theorem cut_append_cons {c : Char} (hc : c ∉ p) (hp : p ≠ []) (s t : List Char) :
    cut p (s ++ c :: t) = match cut p s with
      | some (before, after) => some (before, after ++ c :: t)
      | none => (cut p t).map fun (before, after) => (s ++ c :: before, after) := by
  induction s with
  | nil =>
    have hnone : cut p [] = none := cut_eq_none_iff.2 fun h => hp (List.infix_nil.1 h)
    have hfirst : ¬ p.isPrefixOf (c :: t) := fun h => by
      have hnil : p <+: [] :=
        prefix_of_prefix_append_cons hc (s := []) (List.isPrefixOf_iff_prefix.1 h)
      exact hp (List.prefix_nil.1 hnil)
    rw [hnone, List.nil_append, cut, if_neg hfirst]
    rfl
  | cons d s ih =>
    by_cases hfirst : p <+: d :: s
    · have hlong : p <+: d :: (s ++ c :: t) := hfirst.trans (List.prefix_append (d :: s) (c :: t))
      rw [List.cons_append, cut, cut, if_pos (List.isPrefixOf_iff_prefix.2 hlong),
        if_pos (List.isPrefixOf_iff_prefix.2 hfirst), ← List.cons_append,
        List.drop_append_of_le_length hfirst.length_le]
    · have hlong : ¬ p <+: d :: (s ++ c :: t) := fun h => hfirst (prefix_of_prefix_append_cons hc h)
      rw [List.cons_append, cut, cut, if_neg (mt List.isPrefixOf_iff_prefix.1 hlong),
        if_neg (mt List.isPrefixOf_iff_prefix.1 hfirst), ih]
      cases cut p s with
      | none => cases cut p t <;> rfl
      | some found => rfl

theorem cut_append_cons_of_not_infix {c : Char} (hc : c ∉ p) (hp : p ≠ []) {s : List Char}
    (hs : ¬ p <:+: s) (t : List Char) :
    cut p (s ++ c :: t) = (cut p t).map fun (before, after) => (s ++ c :: before, after) := by
  rw [cut_append_cons hc hp, cut_eq_none_iff.2 hs]

theorem infix_append_cons_iff {c : Char} (hc : c ∉ p) (hp : p ≠ []) {s t : List Char} :
    p <:+: s ++ c :: t ↔ p <:+: s ∨ p <:+: t := by
  rw [← not_iff_not, not_or, ← cut_eq_none_iff, ← cut_eq_none_iff, ← cut_eq_none_iff,
    cut_append_cons hc hp]
  cases cut p s <;> simp

def OccursOnce (p s : List Char) : Prop := ∃! i, p <+: s.drop i

theorem not_prefix_drop {s : List Char} (hs : ¬ p <:+: s) (i : Nat) : ¬ p <+: s.drop i :=
  fun h => hs (h.isInfix.trans (List.drop_suffix i s).isInfix)

theorem occursOnce_self (hp : p ≠ []) : OccursOnce p p := by
  refine ⟨0, List.prefix_rfl, fun i hi => ?_⟩
  have hlen := hi.length_le
  have hpos : 0 < p.length := List.length_pos_iff.2 hp
  rw [List.length_drop] at hlen
  omega

theorem prefix_drop_append_cons_iff {c : Char} (hc : c ∉ p) (hp : p ≠ []) {s t : List Char}
    {i : Nat} : p <+: (s ++ c :: t).drop i ↔
      p <+: s.drop i ∨ s.length < i ∧ p <+: t.drop (i - (s.length + 1)) := by
  by_cases hi : i ≤ s.length
  · rw [List.drop_append_of_le_length hi, or_iff_left (fun h => Nat.not_lt.2 hi h.1)]
    exact ⟨prefix_of_prefix_append_cons hc, fun h => h.trans (List.prefix_append _ _)⟩
  · have hlt : s.length < i := Nat.not_le.1 hi
    have hnil : ¬ p <+: s.drop i := by
      rw [List.drop_eq_nil_of_le hlt.le, List.prefix_nil]
      exact hp
    have hdrop : (s ++ c :: t).drop i = t.drop (i - (s.length + 1)) := by
      have hsub : i - s.length = i - (s.length + 1) + 1 := by omega
      rw [List.drop_append, List.drop_eq_nil_of_le hlt.le, List.nil_append, hsub,
        List.drop_succ_cons]
    rw [hdrop, or_iff_right hnil, and_iff_right hlt]

theorem OccursOnce.append_cons {c : Char} (hc : c ∉ p) (hp : p ≠ []) {s t : List Char}
    (hs : OccursOnce p s) (ht : ¬ p <:+: t) : OccursOnce p (s ++ c :: t) := by
  obtain ⟨i, hi, huniq⟩ := hs
  refine ⟨i, (prefix_drop_append_cons_iff hc hp).2 (.inl hi), fun j hj => ?_⟩
  rcases (prefix_drop_append_cons_iff hc hp).1 hj with hj | ⟨_, hj⟩
  · exact huniq j hj
  · exact absurd hj (not_prefix_drop ht _)

theorem OccursOnce.cons_append {c : Char} (hc : c ∉ p) (hp : p ≠ []) {s t : List Char}
    (hs : ¬ p <:+: s) (ht : OccursOnce p t) : OccursOnce p (s ++ c :: t) := by
  obtain ⟨i, hi, huniq⟩ := ht
  refine ⟨i + (s.length + 1), (prefix_drop_append_cons_iff hc hp).2 (.inr ⟨by omega, ?_⟩), ?_⟩
  · rwa [Nat.add_sub_cancel]
  · intro j hj
    rcases (prefix_drop_append_cons_iff hc hp).1 hj with hj | ⟨hlt, hj⟩
    · exact absurd hj (not_prefix_drop hs _)
    · have heq := huniq _ hj
      omega

theorem cut_singleton {c : Char} {s : List Char} (hs : c ∉ s) (t : List Char) :
    cut [c] (s ++ c :: t) = some (s, t) := by
  induction s with
  | nil => exact cut_self_append (List.cons_ne_nil c []) t
  | cons d s ih =>
    have hd : ¬ [c].isPrefixOf (d :: (s ++ c :: t)) := by
      rw [List.isPrefixOf_iff_prefix, List.cons_prefix_cons, not_and_or]
      exact .inl fun h => hs (h ▸ List.mem_cons_self)
    rw [List.cons_append, cut, if_neg hd, ih fun h => hs (List.mem_cons_of_mem d h)]
    rfl

theorem cutLast_singleton {c : Char} {t : List Char} (ht : c ∉ t) (s : List Char) :
    cutLast [c] (s ++ c :: t) = some (s, t) := by
  have hnone : cutLast [c] t = none := by
    apply Option.eq_none_iff_forall_ne_some.2
    intro ⟨before, after⟩ h
    rw [cutLast_eq_append h] at ht
    exact ht (by simp)
  induction s with
  | nil => simp [cutLast, hnone]
  | cons d s ih => rw [List.cons_append, cutLast, ih]

theorem cut_singleton_eq_some_iff {c : Char} {s before after : List Char} :
    cut [c] s = some (before, after) ↔ s = before ++ c :: after ∧ c ∉ before := by
  constructor
  · intro h
    have hmem : c ∈ s := by
      rw [cut_eq_append h]
      simp
    obtain ⟨b, a, rfl, hb⟩ := List.eq_append_cons_of_mem hmem
    rw [cut_singleton hb] at h
    cases h
    exact ⟨rfl, hb⟩
  · rintro ⟨rfl, hb⟩
    exact cut_singleton hb after

theorem cutLast_singleton_eq_some_iff {c : Char} {s before after : List Char} :
    cutLast [c] s = some (before, after) ↔ s = before ++ c :: after ∧ c ∉ after := by
  constructor
  · intro h
    have hmem : c ∈ s.reverse := by
      rw [cutLast_eq_append h]
      simp
    -- the last occurrence is the first one from behind
    obtain ⟨a, b, hs, ha⟩ := List.eq_append_cons_of_mem hmem
    obtain rfl : s = b.reverse ++ c :: a.reverse := by
      rw [← List.reverse_reverse s, hs]
      simp
    have ha' : c ∉ a.reverse := mt List.mem_reverse.1 ha
    rw [cutLast_singleton ha'] at h
    cases h
    exact ⟨rfl, ha'⟩
  · rintro ⟨rfl, ha⟩
    exact cutLast_singleton ha before

theorem takeWhile_append_of_head {q : Char → Bool} {s t : List Char} (hs : ∀ c ∈ s, q c)
    (ht : ∀ c ∈ t.head?, ¬ q c) : (s ++ t).takeWhile q = s := by
  rw [List.takeWhile_append_of_pos hs]
  cases t with
  | nil => exact List.append_nil s
  | cons c t => rw [List.takeWhile_cons_of_neg (ht c rfl), List.append_nil]

theorem dropWhile_append_of_head {q : Char → Bool} {s t : List Char} (hs : ∀ c ∈ s, q c)
    (ht : ∀ c ∈ t.head?, ¬ q c) : (s ++ t).dropWhile q = t := by
  rw [List.dropWhile_append_of_pos hs]
  cases t with
  | nil => rfl
  | cons c t => exact List.dropWhile_cons_of_neg (ht c rfl)

theorem trimEnd_prefix (s : List Char) : trimEnd s <+: s := List.rdropWhile_prefix isBlank s

theorem trimEnd_trimEnd (s : List Char) : trimEnd (trimEnd s) = trimEnd s :=
  List.rdropWhile_idempotent isBlank s

theorem trimEnd_append_blank {b : List Char} (hb : ∀ c ∈ b, isBlank c) (s : List Char) :
    trimEnd (s ++ b) = trimEnd s := by
  unfold trimEnd
  rw [List.reverse_append, List.dropWhile_append_of_pos]
  intro c hc
  exact hb c (List.mem_reverse.1 hc)

end UnitTestGen.Text
