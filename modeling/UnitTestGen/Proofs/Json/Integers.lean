import UnitTestGen.Json.Canonical
import UnitTestGen.Json.Reader
import UnitTestGen.Proofs.Binary64.Rounding
import UnitTestGen.Proofs.Text.Numeral
import UnitTestGen.Proofs.Text.Search

/-! Whole numbers as they are written and as they are kept. A number written in digits alone, without
a point and without an exponent, is read as a whole one. It stands for an integer only if that fits
64 bits; minus zero and the longer ones stand for finite numbers of the binary format, or for
nothing if they are too large. -/

namespace UnitTestGen.Json

open Text

def EndsWhole (rest : List Char) : Prop :=
  ∀ c ∈ rest.head?, ¬ c.isDigit ∧ c ≠ '.' ∧ c ≠ 'e' ∧ c ≠ 'E'

theorem readFractionPart_of_head {s : List Char} (hs : ∀ c ∈ s.head?, c ≠ '.') :
    readFractionPart s = some ([], s) := by
  unfold readFractionPart
  split
  · exact absurd rfl (hs '.' rfl)
  · rfl

theorem readNumber_decimal (negative : Bool) (m : Nat) {rest : List Char} (hrest : EndsWhole rest) :
    readNumber negative (decimal m ++ rest) = some (.number (.integer negative m), rest) := by
  have hdigits : ∀ c ∈ decimal m, c.isDigit := fun _ => isDigit_of_mem_decimal
  have htake : (decimal m ++ rest).takeWhile Char.isDigit = decimal m :=
    takeWhile_append_of_head hdigits fun c hc => (hrest c hc).1
  have hdrop : (decimal m ++ rest).dropWhile Char.isDigit = rest :=
    dropWhile_append_of_head hdigits fun c hc => (hrest c hc).1
  have hwhole : ((decimal m).isEmpty ||
      ((decimal m).head? == some '0' && 1 < (decimal m).length)) = false := by
    rcases Nat.eq_zero_or_pos m with rfl | hm
    · rfl
    · simp [decimal_ne_nil, head?_decimal_ne_zero hm]
  have hfraction : readFractionPart rest = some ([], rest) :=
    readFractionPart_of_head fun c hc => (hrest c hc).2.1
  unfold readNumber
  dsimp only
  rw [htake, hdrop, hwhole, hfraction, if_neg Bool.false_ne_true, Option.bind_eq_bind,
    Option.bind_some]
  dsimp only
  split
  · exact absurd rfl (hrest _ rfl).2.2.1
  · exact absurd rfl (hrest _ rfl).2.2.2
  · rw [digitsValue_decimal]
    rfl

/-- An integer of 64 bits, signed or not. Zero with a sign is none. -/
def FitsWord (negative : Bool) (m : Nat) : Prop :=
  if negative then 0 < m ∧ m ≤ 2 ^ 63 else m < UInt64.size

instance (negative : Bool) (m : Nat) : Decidable (FitsWord negative m) :=
  inferInstanceAs (Decidable (if negative then 0 < m ∧ m ≤ 2 ^ 63 else m < UInt64.size))

theorem canonical_of_fitsWord {negative : Bool} {m : Nat} (h : FitsWord negative m) (depth : Nat) :
    canonical depth (.number (.integer negative m)) = some (.number (.integer negative m)) := by
  have hvalue : (Numeral.integer negative m).value.map Numeral.Value.numeral =
      some (.integer negative m) := by
    cases negative with
    | false =>
      rw [Numeral.value, if_pos (show m < UInt64.size from h)]
      simp [Numeral.Value.numeral]
    | true =>
      have hm : 0 < m ∧ m ≤ 2 ^ 63 := h
      rw [Numeral.value, if_pos hm]
      simp [Numeral.Value.numeral, hm.1]
  obtain ⟨v, hv, hnumeral⟩ := Option.map_eq_some_iff.1 hvalue
  rw [canonical, hv, Option.map_some, hnumeral]

theorem isFinite_of_scale {significand : Nat} {exponent : Int} (hexponent : 0 ≤ exponent)
    {x : Binary64} (h : scale significand exponent = some x) : x.isFinite := by
  unfold scale at h
  dsimp only at h
  rw [if_neg (Int.not_lt.2 hexponent)] at h
  split at h
  · rename_i hzero
    obtain rfl := Option.some.inj h
    exact Binary64.isFinite_of_units_eq_zero hzero
  split at h
  · cases h
  split at h
  · cases h
  · rename_i hfinite
    obtain rfl := Option.some.inj h
    exact Binary64.isFinite_mulSize hfinite

theorem isFinite_of_ofDigits {negative : Bool} {whole : List Char} {x : Binary64}
    (h : ofDigits negative whole [] 0 = some x) : x.isFinite := by
  obtain ⟨y, hy, rfl⟩ := Option.map_eq_some_iff.1 h
  refine Binary64.isFinite_withSign (isFinite_of_scale ?_ hy) negative
  simp

theorem exists_finite_of_canonical {negative : Bool} {m depth : Nat} {c : Json}
    (hfits : ¬ FitsWord negative m) (h : canonical depth (.number (.integer negative m)) = some c) :
    ∃ x : Binary64, x.isFinite ∧ c = .number (.fraction x) := by
  rw [canonical] at h
  obtain ⟨v, hv, rfl⟩ := Option.map_eq_some_iff.1 h
  have hlong {y : Option Binary64} (hy : y.map .float = some v) (hfinite : ∀ x ∈ y, x.isFinite) :
      ∃ x : Binary64, x.isFinite ∧ Json.number v.numeral = .number (.fraction x) := by
    obtain ⟨x, hx, rfl⟩ := Option.map_eq_some_iff.1 hy
    exact ⟨x, hfinite x hx, rfl⟩
  cases negative with
  | false =>
    rw [Numeral.value, if_neg (show ¬ m < UInt64.size from hfits)] at hv
    exact hlong hv fun x hx => isFinite_of_ofDigits hx
  | true =>
    rw [Numeral.value, if_neg (show ¬ (0 < m ∧ m ≤ 2 ^ 63) from hfits)] at hv
    split at hv
    · rename_i hm
      obtain rfl := Option.some.inj hv
      exact ⟨_, Binary64.isFinite_withSign (Binary64.isFinite_ofNat hm) true, rfl⟩
    · exact hlong hv fun x hx => isFinite_of_ofDigits hx

end UnitTestGen.Json
