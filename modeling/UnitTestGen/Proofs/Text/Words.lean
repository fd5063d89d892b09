import UnitTestGen.Proofs.Text.Numeral
import UnitTestGen.Proofs.Text.Search

/-! Words and the blanks around them. A run without blanks is a word of its own if what follows is
blank or nothing, the first and the last word of a text lie between blanks or at its ends, and
trimming leaves a text alone that has no blank there. -/

namespace UnitTestGen.Text

theorem isBlank_of_isDigit {c : Char} (hc : c.isDigit) : isBlank c = false := by
  have hge : 48 ≤ c.toNat := of_decide_eq_true (Bool.and_eq_true_iff.1 hc).1
  have hle : c.toNat ≤ 57 := of_decide_eq_true (Bool.and_eq_true_iff.1 hc).2
  simp only [isBlank, Bool.or_eq_false_iff, Bool.and_eq_false_iff, decide_eq_false_iff_not,
    beq_eq_false_iff_ne]
  omega

theorem any_isBlank_eq_false_iff {s : List Char} :
    s.any isBlank = false ↔ ∀ c ∈ s, isBlank c = false := by
  simp only [List.any_eq_false, Bool.not_eq_true]

theorem isBlank_of_mem_decimal {n : Nat} {c : Char} (hc : c ∈ decimal n) : isBlank c = false :=
  isBlank_of_isDigit (isDigit_of_mem_decimal hc)

theorem words_append {w : List Char} (hw : ∀ c ∈ w, isBlank c = false) (hne : w ≠ [])
    {s : List Char} (hs : s.head?.all isBlank) : words (w ++ s) = w :: words s := by
  induction w with
  | nil => exact absurd rfl hne
  | cons c w ih =>
    have hc : isBlank c = false := hw c List.mem_cons_self
    rw [List.cons_append, words, hc, if_neg Bool.false_ne_true]
    cases w with
    | nil => rw [List.nil_append, if_pos hs]
    | cons d w =>
      have hd : isBlank d = false := hw d (List.mem_cons_of_mem _ List.mem_cons_self)
      have hnext : ¬ ((d :: w ++ s).head?.all isBlank) := by simp [hd]
      rw [if_neg hnext, ih (fun e he => hw e (List.mem_cons_of_mem _ he)) (List.cons_ne_nil _ _)]
      rfl

theorem words_eq_nil_iff {s : List Char} : words s = [] ↔ ∀ c ∈ s, isBlank c := by
  induction s with
  | nil => simp [words]
  | cons c s ih =>
    by_cases hc : isBlank c
    · simp [words_blank s hc, ih, hc]
    · have hne : words (c :: s) ≠ [] := by
        rw [words, if_neg hc]
        split
        · exact List.cons_ne_nil _ _
        · cases words s <;> exact List.cons_ne_nil _ _
      simp [hne, hc]

theorem words_append_blanks {b : List Char} (hb : ∀ c ∈ b, isBlank c) (s : List Char) :
    words (s ++ b) = words s := by
  induction s with
  | nil => exact words_eq_nil_iff.2 hb
  | cons c s ih =>
    have hhead : (s ++ b).head?.all isBlank = s.head?.all isBlank := by
      cases s with
      | nil => cases b <;> simp_all
      | cons d s => rfl
    rw [List.cons_append, words, words, hhead, ih]

theorem exists_of_words_eq_cons {s w : List Char} {ws : List (List Char)} (h : words s = w :: ws) :
    ∃ b r, s = b ++ w ++ r ∧ (∀ c ∈ b, isBlank c) ∧ w ≠ [] ∧ (∀ c ∈ w, isBlank c = false) ∧
      r.head?.all isBlank ∧ words r = ws := by
  induction s generalizing w ws with
  | nil => cases h
  | cons c s ih =>
    by_cases hc : isBlank c
    · rw [words_blank s hc] at h
      obtain ⟨b, r, rfl, hb, hw⟩ := ih h
      exact ⟨c :: b, r, rfl, List.forall_mem_cons.2 ⟨hc, hb⟩, hw⟩
    · have hsolid : isBlank c = false := Bool.eq_false_iff.2 hc
      rw [words, if_neg hc] at h
      split at h
      · rename_i hs
        cases h
        exact ⟨[], s, rfl, by simp, by simp, by simpa using hsolid, hs, rfl⟩
      · rename_i hs
        cases hws : words s with
        | nil =>
          have hall := words_eq_nil_iff.1 hws
          cases s <;> simp_all
        | cons w' ws' =>
          rw [hws] at h
          cases h
          obtain ⟨b, r, rfl, hb, -, hw', hr⟩ := ih hws
          -- the word goes on, so there is no blank between the character and the rest of it
          have hnil : b = [] := by
            cases b with
            | nil => rfl
            | cons d b => exact absurd (by simpa using hb d List.mem_cons_self) hs
          subst hnil
          exact ⟨[], r, rfl, by simp, by simp, List.forall_mem_cons.2 ⟨hsolid, hw'⟩, hr⟩

theorem trimEnd_eq_self {s : List Char} (hlast : ∀ c, s.getLast? = some c → isBlank c = false) :
    trimEnd s = s := by
  have hend : s.reverse.dropWhile isBlank = s.reverse := by
    apply trimStart_eq_self
    intro c hc
    rw [List.head?_reverse] at hc
    exact hlast c hc
  rw [trimEnd, hend, List.reverse_reverse]

theorem suffix_trimEnd_of_words {s w : List Char} {ws : List (List Char)}
    (h : words s = ws ++ [w]) : w <:+ trimEnd s := by
  have key : ∃ a b, s = a ++ w ++ b ∧ (∀ c ∈ b, isBlank c) ∧ w ≠ [] ∧
      ∀ c ∈ w, isBlank c = false := by
    induction ws generalizing s with
    | nil =>
      obtain ⟨a, r, hs, -, hne, hw, -, hr⟩ := exists_of_words_eq_cons h
      exact ⟨a, r, hs, words_eq_nil_iff.1 hr, hne, hw⟩
    | cons v ws ih =>
      obtain ⟨b, r, hs, -, -, -, -, hr⟩ := exists_of_words_eq_cons h
      obtain ⟨a, b', rfl, hw⟩ := ih hr
      exact ⟨b ++ v ++ a, b', by simp [hs], hw⟩
  obtain ⟨a, b, rfl, hb, hne, hw⟩ := key
  rw [trimEnd_append_blank hb, trimEnd_eq_self]
  · exact List.suffix_append a w
  · intro c hc
    rw [List.getLast?_append_of_ne_nil _ hne] at hc
    exact hw c (List.mem_of_getLast? hc)

theorem isBlank_of_head?_trim {s : List Char} {c : Char} (h : (trim s).head? = some c) :
    isBlank c = false := by
  obtain ⟨t, ht⟩ := trimEnd_prefix (trimStart s)
  have hhead : (s.dropWhile isBlank).head? = some c := by
    change (trimStart s).head? = some c
    rw [← ht, List.head?_append]
    exact Option.or_eq_some_iff.2 (.inl h)
  have hnot := List.head?_dropWhile_not isBlank s
  rw [hhead] at hnot
  simpa using hnot

theorem head?_words_eq_some_iff {s w : List Char} (hs : ∀ c, s.head? = some c → isBlank c = false) :
    (words s).head? = some w ↔ ∃ r, s = w ++ r ∧ w ≠ [] ∧ (∀ c ∈ w, isBlank c = false) ∧
      r.head?.all isBlank := by
  constructor
  · intro h
    obtain ⟨ws, hws⟩ := List.head?_eq_some_iff.1 h
    obtain ⟨b, r, rfl, hb, hne, hw, hr, _⟩ := exists_of_words_eq_cons hws
    cases b with
    | nil => exact ⟨r, rfl, hne, hw, hr⟩
    | cons c b => exact absurd (hs c rfl) (by simp [hb c List.mem_cons_self])
  · rintro ⟨r, rfl, hne, hw, hr⟩
    rw [words_append hw hne hr]
    rfl

theorem trim_blank {c : Char} (hc : isBlank c) (s : List Char) : trim (c :: s) = trim s := by
  unfold trim trimStart
  rw [List.dropWhile_cons_of_pos hc]

theorem trim_eq_self {s : List Char} (hfirst : ∀ c, s.head? = some c → isBlank c = false)
    (hlast : ∀ c, s.getLast? = some c → isBlank c = false) : trim s = s := by
  rw [trim, trimStart_eq_self hfirst, trimEnd_eq_self hlast]

end UnitTestGen.Text
