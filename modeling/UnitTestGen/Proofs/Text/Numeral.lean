import Mathlib.Algebra.Group.Nat.Defs
import UnitTestGen.Text.Numeral

/-! Decimal numerals read back. A written number is a run of digits with that value, and zeros at
either end of a run change its value by a power of ten or not at all. -/

namespace UnitTestGen.Text

theorem digitsValue_eq (s : List Char) : digitsValue s = Nat.ofDigitChars 10 s 0 := rfl

theorem digitsValue_decimal (n : Nat) : digitsValue (decimal n) = n :=
  Nat.ofDigitChars_ten_toDigits

theorem digitsValue_append (s t : List Char) :
    digitsValue (s ++ t) = 10 ^ t.length * digitsValue s + digitsValue t := by
  rw [digitsValue_eq, digitsValue_eq, digitsValue_eq, Nat.ofDigitChars_append,
    Nat.ofDigitChars_eq_ofDigitChars_zero]

theorem digitsValue_zeros (k : Nat) : digitsValue (List.replicate k '0') = 0 := by
  rw [digitsValue_eq, Nat.ofDigitChars_replicate_zero, Nat.mul_zero]

theorem digitsValue_zeros_append (k : Nat) (s : List Char) :
    digitsValue (List.replicate k '0' ++ s) = digitsValue s := by
  rw [digitsValue_append, digitsValue_zeros, Nat.mul_zero, Nat.zero_add]

theorem digitsValue_append_zeros (s : List Char) (k : Nat) :
    digitsValue (s ++ List.replicate k '0') = digitsValue s * 10 ^ k := by
  rw [digitsValue_append, digitsValue_zeros, List.length_replicate, Nat.add_zero, Nat.mul_comm]

theorem decimal_ne_nil (n : Nat) : decimal n ≠ [] := Nat.toDigits_ne_nil

theorem isDigit_of_mem_decimal {n : Nat} {c : Char} (hc : c ∈ decimal n) : c.isDigit :=
  Nat.isDigit_of_mem_toDigits (by decide) (by decide) hc

theorem isDigit_of_mem_toString {n : Nat} {c : Char} (hc : c ∈ (toString n).toList) : c.isDigit :=
  isDigit_of_mem_decimal (by simpa [decimal] using hc)

theorem mem_toString_int {k : Int} {c : Char} (hc : c ∈ (toString k).toList) :
    c.isDigit ∨ c = '-' := by
  cases k with
  | ofNat n =>
    have hnat : toString (Int.ofNat n) = toString n := rfl
    rw [hnat] at hc
    exact .inl (isDigit_of_mem_toString hc)
  | negSucc n =>
    have hneg : toString (Int.negSucc n) = "-" ++ toString (n + 1) := rfl
    rw [hneg, String.toList_append] at hc
    rcases List.mem_append.1 hc with hc | hc
    · exact .inr (List.mem_singleton.1 hc)
    · exact .inl (isDigit_of_mem_toString hc)

theorem head?_decimal_ne_zero {n : Nat} (hn : 0 < n) : (decimal n).head? ≠ some '0' := by
  induction n using Nat.strongRecOn with
  | ind n ih =>
    unfold decimal
    rcases Nat.lt_or_ge n 10 with hlt | hge
    · have hdigit : ∀ k < 10, 0 < k → k.digitChar ≠ '0' := by decide
      rw [Nat.toDigits_of_lt_base hlt, List.head?_cons]
      exact fun h => hdigit n hlt hn (Option.some.inj h)
    · obtain ⟨d, ds, hds⟩ := List.exists_cons_of_ne_nil (decimal_ne_nil (n / 10))
      have hhead := ih (n / 10) (by omega) (by omega)
      unfold decimal at hds hhead
      rw [hds] at hhead
      rw [Nat.toDigits_of_base_le (by decide) hge, hds]
      exact hhead

theorem isDigit_of_mem_zeros {k : Nat} {c : Char} (hc : c ∈ List.replicate k '0') : c.isDigit := by
  rw [List.eq_of_mem_replicate hc]
  rfl

theorem readDigits_eq_some {s : List Char} (hne : s ≠ []) (hs : ∀ c ∈ s, c.isDigit) :
    readDigits s = some (digitsValue s) := by
  have hall : s.all Char.isDigit := List.all_eq_true.2 hs
  have hempty : s.isEmpty = false := by simpa using hne
  rw [readDigits, hall, hempty]
  rfl

theorem readUnsigned_decimal {limit n : Nat} (hn : n < limit) :
    readUnsigned limit (decimal n) = some n := by
  have hread : readDigits (decimal n) = some n := by
    rw [readDigits_eq_some (decimal_ne_nil n) fun _ => isDigit_of_mem_decimal, digitsValue_decimal]
  have hsign (rest : List Char) : decimal n ≠ '+' :: rest := by
    intro h
    have hplus : ('+').isDigit := isDigit_of_mem_decimal (h ▸ List.mem_cons_self)
    exact absurd hplus (by decide)
  unfold readUnsigned
  dsimp only
  split
  · exact absurd ‹_› (hsign _)
  · rw [hread, Option.filter_some, if_pos (decide_eq_true hn)]

theorem readUInt64_decimal (n : UInt64) : readUInt64 (decimal n.toNat) = some n := by
  rw [readUInt64, readUnsigned_decimal n.toNat_lt_size, Option.map_some, UInt64.ofNat_toNat]

theorem toLower_of_isDigit {c : Char} (hc : c.isDigit) : c.toLower = c := by
  have hle : c.val ≤ ('9').val := of_decide_eq_true (Bool.and_eq_true_iff.1 hc).2
  have hupper : ¬ (('A').val ≤ c.val ∧ c.val ≤ ('Z').val) := by
    intro h
    exact absurd (UInt32.le_trans h.1 hle) (by decide)
  exact dif_neg hupper

end UnitTestGen.Text
