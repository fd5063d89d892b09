import UnitTestGen.Ty.Text

/-! The characters in the stems of variable names. Whatever characters a type's name is made of, of
the ASCII characters only letters, digits and the underscore are left in the stem. -/

namespace UnitTestGen

namespace Text

def isNameChar (c : Char) : Bool := c.isAlphanum || c == '_' || 128 ≤ c.toNat

theorem lower_of_mem_upperRuns : ∀ run ∈ upperRuns,
    (128 ≤ (run.1 : Int) + run.2.2.2 ∧ ((run.2.1 : Int) + run.2.2.2 < 0xD800 ∨
      0xDFFF < (run.1 : Int) + run.2.2.2 ∧ (run.2.1 : Int) + run.2.2.2 < 0x110000)) ∨
    run.1 = run.2.1 ∧ (Char.ofNat ((run.1 : Int) + run.2.2.2).toNat).isAlphanum := by
  decide +kernel

theorem toNat_ofNat {n : Nat} (h : n.isValidChar) : (Char.ofNat n).toNat = n := by
  rw [Char.ofNat, dif_pos h]
  rfl

theorem isNameChar_of_ge {c : Char} (h : 128 ≤ c.toNat) : isNameChar c := by
  simp [isNameChar, h]

theorem isNameChar_of_isAlphanum {c : Char} (h : c.isAlphanum) : isNameChar c := by
  simp [isNameChar, h]

theorem isNameChar_of_isDigit {c : Char} (h : c.isDigit) : isNameChar c :=
  isNameChar_of_isAlphanum (by simp [Char.isAlphanum, h])

theorem isNameChar_lower {c : Char} {d : Int} (h : lowerOffset? c = some d) :
    isNameChar (Char.ofNat ((c.toNat : Int) + d).toNat) := by
  unfold lowerOffset? at h
  split at h
  · split at h
    · rename_i hupper
      cases h
      have hlower : ∀ n < 91, 65 ≤ n → isNameChar (Char.ofNat ((n : Nat) + (32 : Int)).toNat) := by
        decide
      have hrange : 65 ≤ c.toNat ∧ c.toNat ≤ 90 := of_decide_eq_true hupper
      exact hlower c.toNat (Nat.lt_succ_of_le hrange.2) hrange.1
    · cases h
  · obtain ⟨⟨first, last, step, e⟩, hfind, rfl⟩ := Option.map_eq_some_iff.1 h
    have hin := List.find?_some hfind
    simp only [Bool.and_eq_true, decide_eq_true_eq] at hin
    obtain ⟨⟨hfirst, hlast⟩, -⟩ := hin
    rcases lower_of_mem_upperRuns _ (List.mem_of_find?_eq_some hfind) with
      ⟨hge, hvalid⟩ | ⟨hone, hform⟩
    · dsimp only at hge hvalid ⊢
      apply isNameChar_of_ge
      rw [toNat_ofNat]
      · omega
      · unfold Nat.isValidChar
        omega
    · dsimp only at hone hform
      obtain rfl : first = c.toNat := by omega
      exact isNameChar_of_isAlphanum hform

theorem isNameChar_of_mem_lowercase {c d : Char} (hc : isUppercase c) (hd : d ∈ lowercase c) :
    isNameChar d := by
  obtain ⟨e, he⟩ := Option.isSome_iff_exists.1 hc
  unfold lowercase at hd
  rw [he] at hd
  dsimp only at hd
  split at hd
  · rcases List.mem_cons.1 hd with rfl | hd
    · exact isNameChar_lower he
    · rw [List.mem_singleton.1 hd]
      decide
  · rw [List.mem_singleton.1 hd]
    exact isNameChar_lower he

theorem isNameChar_of_isAlphanumeric {c : Char} (h : isAlphanumeric c) : isNameChar c := by
  unfold isAlphanumeric at h
  split at h
  · exact isNameChar_of_isAlphanum h
  · exact isNameChar_of_ge (Nat.not_lt.1 ‹_›)

end Text

namespace Ty

open Text

theorem isNameChar_of_mem_snakeCase {s : List Char} {c : Char} (hc : c ∈ snakeCase s) :
    isNameChar c := by
  have key : ∀ atStart d, c ∈ snakeChar atStart d → isNameChar c := by
    intro atStart d hd
    unfold snakeChar at hd
    split at hd
    · rename_i hupper
      rcases List.mem_append.1 hd with hd | hd
      · cases atStart with
        | true => cases hd
        | false =>
          rw [List.mem_singleton.1 hd]
          decide
      · exact isNameChar_of_mem_lowercase hupper hd
    · split at hd
      · rw [List.mem_singleton.1 hd]
        exact isNameChar_of_isAlphanumeric ‹_›
      · rw [List.mem_singleton.1 hd]
        decide
  cases s with
  | nil => cases hc
  | cons d s =>
    rcases List.mem_append.1 hc with hc | hc
    · exact key true d hc
    · obtain ⟨e, _, he⟩ := List.mem_flatMap.1 hc
      exact key false e he

theorem isNameChar_of_mem_varPrefix {t : Ty} {c : Char} (hc : c ∈ t.varPrefix) : isNameChar c := by
  have hword : ∀ w : String, w.toList.all isNameChar → c ∈ w.toList → isNameChar c :=
    fun w hw hcw => List.all_eq_true.1 hw c hcw
  induction t using Ty.induction with
  | prim p => exact hword _ (by cases p <;> decide) hc
  | adt k n gs tr _ => exact isNameChar_of_mem_snakeCase hc
  | tuple ts _ => cases ts <;> exact hword _ (by decide) hc
  | array t n ih => exact (List.mem_append.1 hc).elim ih (hword _ (by decide))
  | slice t ih => exact (List.mem_append.1 hc).elim ih (hword _ (by decide))
  | ref t m ih => exact (List.mem_append.1 hc).elim ih (hword _ (by decide))
  | generic n b => exact isNameChar_of_mem_snakeCase hc
  | traitObj n b =>
    exact (List.mem_append.1 hc).elim (hword _ (by decide)) isNameChar_of_mem_snakeCase
  | fn ps r _ _ => exact hword _ (by decide) hc

end Ty
end UnitTestGen
