import Mathlib.Algebra.Group.Nat.Defs
import UnitTestGen.Binary64.Basic

/-! Rounding to the nearest number. It depends on the value of a quotient alone, not on the fraction
that gives it, and leaves the size of a finite number as it is. So a decimal stands for the same
number with zeros moved from its digits into its exponent. -/

namespace UnitTestGen.Binary64

theorem roundHalfEven_mul {c : Nat} (hc : 0 < c) (num den : Nat) :
    roundHalfEven (num * c) (den * c) = roundHalfEven num den := by
  have hmul : 2 * (num % den * c) = 2 * (num % den) * c := (Nat.mul_assoc _ _ _).symm
  unfold roundHalfEven
  simp only [Nat.mul_div_mul_right _ _ hc, Nat.mul_mod_mul_right, hmul, Nat.mul_lt_mul_right hc]

theorem roundHalfEven_mul_self {den : Nat} (hden : 0 < den) (q : Nat) :
    roundHalfEven (q * den) den = q := by
  unfold roundHalfEven
  simp only [Nat.mul_mod_left, Nat.mul_zero, if_pos hden]
  exact Nat.mul_div_cancel q hden

theorem roundUnits_mul {c : Nat} (hc : 0 < c) (num den : Nat) :
    roundUnits (num * c) (den * c) = roundUnits num den := by
  have hshift (k : Nat) : (den * c) <<< k = den <<< k * c := by
    rw [Nat.shiftLeft_eq, Nat.shiftLeft_eq, Nat.mul_right_comm]
  unfold roundUnits
  simp only [Nat.mul_div_mul_right _ _ hc, hshift, roundHalfEven_mul hc]

theorem roundUnits_congr {num den num' den' : Nat} (hden : 0 < den) (hden' : 0 < den')
    (h : num * den' = num' * den) : roundUnits num den = roundUnits num' den' := by
  calc roundUnits num den
      = roundUnits (num * den') (den * den') := (roundUnits_mul hden' _ _).symm
    _ = roundUnits (num' * den) (den' * den) := by rw [h, Nat.mul_comm den]
    _ = roundUnits num' den' := roundUnits_mul hden _ _

theorem roundUnits_le (num den : Nat) : roundUnits num den ≤ infiniteMagnitude := by
  unfold roundUnits
  dsimp only
  split
  · exact Nat.le_refl _
  · exact Nat.le_of_not_le ‹_›

theorem roundUnits_shiftLeft {s k : Nat} (hs : s < 2 ^ 53) (hk : k = 0 ∨ 2 ^ 52 ≤ s)
    (hfin : k * 2 ^ 52 + s < infiniteMagnitude) : roundUnits (s <<< k) 1 = k * 2 ^ 52 + s := by
  have hshift : Nat.log2 (s <<< k / 1) - 52 = k := by
    rw [Nat.div_one]
    rcases hk with rfl | hk
    · by_cases hzero : s = 0
      · rw [hzero]
        rfl
      · have hlog : s.log2 < 53 := (Nat.log2_lt hzero).2 hs
        rw [Nat.shiftLeft_zero]
        omega
    · have hpos : 0 < 2 ^ k := Nat.two_pow_pos k
      have hlog : (s <<< k).log2 = k + 52 := by
        rw [Nat.shiftLeft_eq, Nat.log2_eq_iff (Nat.mul_ne_zero (by omega) (Nat.ne_of_gt hpos))]
        constructor
        · rw [Nat.pow_add, Nat.mul_comm s]
          exact Nat.mul_le_mul_left _ hk
        · rw [Nat.add_assoc, Nat.pow_add, Nat.mul_comm s]
          exact Nat.mul_lt_mul_of_pos_left hs hpos
      rw [hlog, Nat.add_sub_cancel]
  have hround : roundHalfEven (s <<< k) (1 <<< k) = s := by
    rw [Nat.shiftLeft_eq, Nat.one_shiftLeft]
    exact roundHalfEven_mul_self (Nat.two_pow_pos k) s
  unfold roundUnits
  simp only [hshift, hround]
  exact if_neg (Nat.not_le.2 hfin)

theorem roundUnits_units {x : Binary64} (hx : x.isFinite) : roundUnits x.units 1 = x.magnitude := by
  have hfin : x.magnitude < infiniteMagnitude := of_decide_eq_true hx
  have hfraction : x.magnitude % 2 ^ 52 < 2 ^ 52 := Nat.mod_lt _ (Nat.two_pow_pos 52)
  have hsplit : x.magnitude / 2 ^ 52 * 2 ^ 52 + x.magnitude % 2 ^ 52 = x.magnitude :=
    Nat.div_add_mod' _ _
  unfold units
  dsimp only
  generalize x.magnitude % 2 ^ 52 = fraction at hfraction hsplit ⊢
  generalize x.magnitude / 2 ^ 52 = exponent at hsplit ⊢
  rw [← hsplit] at hfin ⊢
  split
  · rename_i hzero
    have hsum : (exponent - 1) * 2 ^ 52 + fraction = exponent * 2 ^ 52 + fraction := by
      rw [hzero]
    rw [← hsum] at hfin ⊢
    exact roundUnits_shiftLeft (Nat.lt_trans hfraction (by decide)) (.inl (by rw [hzero])) hfin
  · -- the bit that is not stored counts as one in the exponent
    have hsum : (exponent - 1) * 2 ^ 52 + (2 ^ 52 + fraction) = exponent * 2 ^ 52 + fraction := by
      clear hfin hsplit
      omega
    rw [← hsum] at hfin ⊢
    exact roundUnits_shiftLeft (Nat.add_lt_add_left hfraction _) (.inr (Nat.le_add_right _ _)) hfin

theorem roundUnits_scaled {x : Binary64} (hx : x.isFinite) {a b c den : Nat}
    (h : a * (b * c) = den) (hden : 0 < den) :
    roundUnits (x.units * a * b * c) den = x.magnitude := by
  have hnum : x.units * a * b * c = x.units * den := by
    rw [Nat.mul_assoc, Nat.mul_assoc, h]
  have hscaled := roundUnits_mul hden x.units 1
  rw [hnum, ← roundUnits_units hx, ← hscaled, Nat.one_mul]

theorem magnitude_ofMagnitude (negative : Bool) {m : Nat} (hm : m < 2 ^ 63) :
    (ofMagnitude negative m).magnitude = m := by
  unfold magnitude ofMagnitude
  rw [UInt64.toNat_ofNat']
  cases negative
  · simp only [Bool.false_eq_true, if_false]
    omega
  · simp only [if_true]
    omega

theorem ofMagnitude_magnitude (x : Binary64) : ofMagnitude x.isNegative x.magnitude = x := by
  have hlt : x.bits.toNat < 2 ^ 64 := x.bits.toNat_lt
  have hbits : (if x.isNegative then 2 ^ 63 + x.magnitude else x.magnitude) = x.bits.toNat := by
    unfold isNegative magnitude
    by_cases hneg : 2 ^ 63 ≤ x.bits.toNat
    · rw [if_pos (decide_eq_true hneg)]
      omega
    · rw [if_neg (by simpa using hneg)]
      omega
  unfold ofMagnitude
  rw [hbits, UInt64.ofNat_toNat]

theorem isNaN_of_isFinite {x : Binary64} (hx : x.isFinite) : x.isNaN = false := by
  have hfin : x.magnitude < infiniteMagnitude := of_decide_eq_true hx
  exact decide_eq_false (Nat.lt_asymm hfin)

theorem units_eq_zero_iff {x : Binary64} : x.units = 0 ↔ x.magnitude = 0 := by
  have hpow (k : Nat) : 2 ^ k ≠ 0 := Nat.ne_of_gt (Nat.two_pow_pos k)
  unfold units
  simp only [Nat.shiftLeft_eq, Nat.mul_eq_zero, hpow, or_false]
  split <;> omega

theorem magnitude_lt (x : Binary64) : x.magnitude < 2 ^ 63 := Nat.mod_lt _ (Nat.two_pow_pos 63)

theorem isFinite_iff {x : Binary64} : x.isFinite ↔ x.magnitude < infiniteMagnitude :=
  decide_eq_true_iff

theorem isFinite_withSign {x : Binary64} (hx : x.isFinite) (negative : Bool) :
    (x.withSign negative).isFinite := by
  rw [isFinite_iff, withSign, magnitude_ofMagnitude _ x.magnitude_lt]
  exact isFinite_iff.1 hx

theorem roundHalfEven_le (num den : Nat) : roundHalfEven num den ≤ num / den + 1 := by
  unfold roundHalfEven
  dsimp only
  split
  · exact Nat.le_succ _
  split
  · exact Nat.le_refl _
  · exact Nat.add_le_add_left (Nat.le_of_lt_succ (Nat.mod_lt _ (by decide))) _

theorem roundUnits_le_of_lt {num den e k : Nat} (h : num / den < 2 ^ e) (he : e ≤ k + 53) :
    roundUnits num den ≤ (k + 2) * 2 ^ 52 := by
  obtain ⟨shift, hshift⟩ : ∃ shift, Nat.log2 (num / den) - 52 = shift := ⟨_, rfl⟩
  have hlog : num / den < 2 ^ (shift + 53) :=
    Nat.lt_of_lt_of_le Nat.lt_log2_self (Nat.pow_le_pow_right (by decide) (by omega))
  have hle : shift ≤ k := by
    by_cases hzero : num / den = 0
    · rw [hzero] at hshift
      exact hshift ▸ Nat.zero_le k
    · have := (Nat.log2_lt hzero).2 h
      omega
  have hround : roundHalfEven num (den <<< shift) ≤ 2 ^ 53 := by
    refine Nat.le_trans (roundHalfEven_le _ _) ?_
    rw [Nat.shiftLeft_eq, ← Nat.div_div_eq_div_mul]
    refine Nat.div_lt_of_lt_mul ?_
    rwa [← Nat.pow_add]
  have hbits : shift * 2 ^ 52 + roundHalfEven num (den <<< shift) ≤ (k + 2) * 2 ^ 52 := by
    omega
  unfold roundUnits
  simp only [hshift]
  split
  · rename_i hinf
    exact Nat.le_trans hinf hbits
  · exact hbits

theorem roundUnits_mul_two_pow_le {n b e k : Nat} (hn : n < 2 ^ b) (he : b + e ≤ k + 53) :
    roundUnits (n * 2 ^ e) 1 ≤ (k + 2) * 2 ^ 52 := by
  refine roundUnits_le_of_lt ?_ he
  rw [Nat.div_one, Nat.pow_add]
  exact Nat.mul_lt_mul_of_pos_right hn (Nat.two_pow_pos e)

theorem isFinite_ofNat {n : Nat} (hn : n < 2 ^ 64) : (ofNat n).isFinite := by
  unfold ofNat ofRatio
  -- the exponent is a variable, so that its power is not computed
  generalize he : 1074 = e
  have hle := roundUnits_mul_two_pow_le (e := e) (k := 1085) hn (by omega)
  have hlt : roundUnits (n * 2 ^ e) 1 < infiniteMagnitude := Nat.lt_of_le_of_lt hle (by decide)
  rw [isFinite_iff, magnitude_ofMagnitude _ (Nat.lt_trans hlt (by decide))]
  exact hlt

theorem isFinite_of_units_eq_zero {x : Binary64} (h : x.units = 0) : x.isFinite := by
  rw [isFinite_iff, units_eq_zero_iff.1 h]
  decide

theorem isFinite_mulSize {x y : Binary64} (h : ¬ (x.mulSize y).isInfinite) :
    (x.mulSize y).isFinite := by
  have hle : (x.mulSize y).magnitude ≤ infiniteMagnitude := by
    have hround : roundUnits (x.units * y.units) (2 ^ 1074) ≤ infiniteMagnitude := roundUnits_le _ _
    rw [mulSize, magnitude_ofMagnitude _ (Nat.lt_of_le_of_lt hround (by decide))]
    exact hround
  have hne : (x.mulSize y).magnitude ≠ infiniteMagnitude := fun heq => h (beq_iff_eq.2 heq)
  exact isFinite_iff.2 (Nat.lt_of_le_of_ne hle hne)

def decimalMagnitude (digits : Nat) (exponent : Int) : Nat :=
  let scale := (Nat.toDigits 10 digits).length + exponent
  if digits = 0 || scale < -330 then 0
  else if 310 < scale then infiniteMagnitude
  else roundUnits (digits * Nat.pow 10 exponent.toNat * 2 ^ 1074) (Nat.pow 10 (-exponent).toNat)

theorem ofDecimal_eq (negative : Bool) (digits : Nat) (exponent : Int) :
    ofDecimal negative digits exponent =
      ofMagnitude negative (decimalMagnitude digits exponent) := by
  unfold ofDecimal decimalMagnitude ofRatio infinity
  dsimp only
  split
  · rfl
  split
  · rfl
  split
  · rename_i hexp
    have hneg : (-exponent).toNat = 0 := by omega
    rw [hneg]
  · rename_i hexp
    have hpos : exponent.toNat = 0 := by omega
    have hone : digits * Nat.pow 10 0 = digits := Nat.mul_one digits
    rw [hpos, hone]

theorem decimalMagnitude_le (digits : Nat) (exponent : Int) :
    decimalMagnitude digits exponent ≤ infiniteMagnitude := by
  unfold decimalMagnitude
  dsimp only
  split
  · exact Nat.zero_le _
  split
  · exact Nat.le_refl _
  · exact roundUnits_le _ _

theorem magnitude_ofDecimal (negative : Bool) (digits : Nat) (exponent : Int) :
    (ofDecimal negative digits exponent).magnitude = decimalMagnitude digits exponent := by
  have hle : decimalMagnitude digits exponent ≤ 2047 * 2 ^ 52 := decimalMagnitude_le _ _
  rw [ofDecimal_eq, magnitude_ofMagnitude _ (by omega)]

theorem length_toDigits_mul_pow {n : Nat} (hn : 0 < n) (k : Nat) :
    (Nat.toDigits 10 (n * 10 ^ k)).length = (Nat.toDigits 10 n).length + k := by
  induction k with
  | zero => rw [Nat.pow_zero, Nat.mul_one, Nat.add_zero]
  | succ k ih =>
    have hpos : 0 < n * 10 ^ k := Nat.mul_pos hn (Nat.pow_pos (by decide))
    have hstep := Nat.toDigits_append_toDigits (b := 10) (d := 0) (by decide) hpos (by decide)
    rw [Nat.pow_succ, ← Nat.mul_assoc, Nat.mul_comm _ 10, ← Nat.add_zero (10 * _), ← hstep,
      List.length_append, ih]
    rfl

theorem decimalMagnitude_mul_pow {digits : Nat} (hdigits : 0 < digits) (k : Nat) (exponent : Int) :
    decimalMagnitude (digits * 10 ^ k) exponent = decimalMagnitude digits (exponent + k) := by
  have hpow (n : Nat) : 0 < Nat.pow 10 n := Nat.pow_pos (by decide)
  have hscale : ((Nat.toDigits 10 (digits * 10 ^ k)).length : Int) + exponent =
      (Nat.toDigits 10 digits).length + (exponent + k) := by
    rw [length_toDigits_mul_pow hdigits]
    omega
  have hzero : digits * 10 ^ k = 0 ↔ digits = 0 := by
    have hne : 10 ^ k ≠ 0 := Nat.ne_of_gt (hpow k)
    rw [Nat.mul_eq_zero, or_iff_left hne]
  have hpows : 10 ^ k * Nat.pow 10 exponent.toNat * Nat.pow 10 (-(exponent + k)).toNat =
      Nat.pow 10 (exponent + k).toNat * Nat.pow 10 (-exponent).toNat := by
    have hexp : k + exponent.toNat + (-(exponent + k)).toNat =
        (exponent + k).toNat + (-exponent).toNat := by omega
    simp only [Nat.pow_eq, ← Nat.pow_add, hexp]
  have hround (unit : Nat) :
      roundUnits (digits * 10 ^ k * Nat.pow 10 exponent.toNat * unit)
        (Nat.pow 10 (-exponent).toNat) =
      roundUnits (digits * Nat.pow 10 (exponent + k).toNat * unit)
        (Nat.pow 10 (-(exponent + k)).toNat) := by
    apply roundUnits_congr (hpow _) (hpow _)
    calc digits * 10 ^ k * Nat.pow 10 exponent.toNat * unit * Nat.pow 10 (-(exponent + k)).toNat
        = digits * unit *
            (10 ^ k * Nat.pow 10 exponent.toNat * Nat.pow 10 (-(exponent + k)).toNat) := by ac_rfl
      _ = digits * unit *
            (Nat.pow 10 (exponent + k).toNat * Nat.pow 10 (-exponent).toNat) := by rw [hpows]
      _ = digits * Nat.pow 10 (exponent + k).toNat * unit *
            Nat.pow 10 (-exponent).toNat := by ac_rfl
  unfold decimalMagnitude
  simp only [hscale, hzero, hround]

end UnitTestGen.Binary64
