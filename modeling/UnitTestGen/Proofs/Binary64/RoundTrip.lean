import Mathlib.Data.List.DropRight
import UnitTestGen.Binary64.Printer
import UnitTestGen.Binary64.Reader
import UnitTestGen.Proofs.Binary64.Rounding
import UnitTestGen.Proofs.Text.Numeral

/-! A finite number written without an exponent reads back, bit for bit. The chosen digits read
back, as those of a grid are chosen for it and the exact value needs no rounding, and wherever the
point is put among the digits the reader finds the same decimal. -/

namespace UnitTestGen.Binary64

open Text

theorem readsBack_iff {x : Binary64} {d : Decimal} :
    x.readsBack d ↔ decimalMagnitude d.digits d.exponent = x.magnitude := by
  rw [readsBack, magnitude_ofDecimal, beq_iff_eq]

theorem passes_of_nearer {tie : Tie} {passes : Decimal → Bool} {below above d : Decimal}
    {rest den : Nat} (h : nearer tie passes below above rest den = some d) : passes d := by
  unfold nearer at h
  split at h
  · rename_i hbelow _
    obtain rfl := Option.some.inj h
    exact hbelow
  · rename_i _ habove
    obtain rfl := Option.some.inj h
    exact habove
  · nomatch h
  · rename_i hbelow habove
    have hd : d = below ∨ d = above := by grind
    rcases hd with rfl | rfl
    · exact hbelow
    · exact habove

theorem shiftLeft_lt {s k m n : Nat} (hs : s < 2 ^ m) (hk : k ≤ n) : s <<< k < 2 ^ (m + n) := by
  rw [Nat.shiftLeft_eq, Nat.pow_add]
  exact Nat.mul_lt_mul_of_lt_of_le hs (Nat.pow_le_pow_right (by decide) hk) (Nat.two_pow_pos n)

theorem units_lt {x : Binary64} (hx : x.isFinite) : x.units < 2 ^ (53 + 2045) := by
  have hfin : x.magnitude < 2047 * 2 ^ 52 := of_decide_eq_true hx
  have hfraction : x.magnitude % 2 ^ 52 < 2 ^ 52 := Nat.mod_lt _ (Nat.two_pow_pos 52)
  unfold units
  apply shiftLeft_lt
  · split <;> omega
  · omega

theorem readsBack_exact {x : Binary64} (hx : x.isFinite) (hzero : x.units ≠ 0) :
    x.readsBack x.exact := by
  -- the exact value has between 744 and 1384 digits, so that the reader rounds the quotient
  have hlower : 10 ^ 743 ≤ 5 ^ 1074 := by decide +kernel
  have hupper : 2 ^ (53 + 2045) * 5 ^ 1074 ≤ 10 ^ 1384 := by decide +kernel
  have hlong : ¬ (Nat.toDigits 10 (x.units * 5 ^ 1074)).length ≤ 743 := by
    rw [Nat.length_toDigits_le_iff (by decide) (by decide), Nat.not_lt]
    exact Nat.le_trans hlower (Nat.le_mul_of_pos_left _ (Nat.pos_of_ne_zero hzero))
  have hshort : (Nat.toDigits 10 (x.units * 5 ^ 1074)).length ≤ 1384 := by
    rw [Nat.length_toDigits_le_iff (by decide) (by decide)]
    exact Nat.lt_of_lt_of_le (Nat.mul_lt_mul_of_pos_right (units_lt hx) (by decide +kernel)) hupper
  have hne : x.units * 5 ^ 1074 ≠ 0 := Nat.mul_ne_zero hzero (by decide +kernel)
  have hnum : (-1074 : Int).toNat = 0 := rfl
  have hden : (-(-1074) : Int).toNat = 1074 := rfl
  rw [readsBack_iff]
  unfold decimalMagnitude exact
  generalize hdigits : x.units * 5 ^ 1074 = digits at *
  dsimp only
  rw [if_neg, if_neg]
  · rw [hnum, hden, ← hdigits]
    apply roundUnits_scaled hx
    · decide +kernel
    · decide +kernel
  · omega
  · simp only [Bool.or_eq_true, decide_eq_true_eq]
    omega

theorem readsBack_shortest {x : Binary64} (hx : x.isFinite) (hzero : x.units ≠ 0) (tie : Tie) :
    x.readsBack (shortest tie x) := by
  unfold shortest
  cases hfound : (List.range' 1 17).findSome? (x.onGrid tie) with
  | none => exact readsBack_exact hx hzero
  | some d =>
    obtain ⟨n, _, hn⟩ := List.exists_of_findSome?_eq_some hfound
    exact passes_of_nearer hn

theorem stripZeros_append (s : List Char) : ∃ k, stripZeros s ++ List.replicate k '0' = s := by
  have hzeros : ∀ c ∈ List.rtakeWhile (· == '0') s, c = '0' := by
    intro c hc
    have hzero := List.mem_rtakeWhile_imp hc
    simpa using hzero
  refine ⟨(List.rtakeWhile (· == '0') s).length, ?_⟩
  rw [← List.eq_replicate_of_mem hzeros]
  exact List.rdropWhile_append_rtakeWhile

theorem ofList_map_toLower_ne {d : Char} (hd : d.isDigit) (s : List Char) {w : String} {c : Char}
    {rest : List Char} (hw : w.toList = c :: rest) (hc : ¬ c.isDigit) :
    (String.ofList ((d :: s).map Char.toLower) == w) = false := by
  rw [beq_eq_false_iff_ne]
  rintro rfl
  rw [String.toList_ofList, List.map_cons, toLower_of_isDigit hd] at hw
  have hfirst : d = c := (List.cons.inj hw).1
  exact hc (hfirst ▸ hd)

theorem readUnsignedText_of_split {s whole fraction : List Char}
    (hs : splitMantissa s = (whole, fraction, [])) (hwhole : whole ≠ []) (negative : Bool) :
    readUnsignedText negative s =
      some (ofDecimal negative (digitsValue (whole ++ fraction)) (-fraction.length)) := by
  have htake : s.takeWhile Char.isDigit = whole := by
    unfold splitMantissa at hs
    dsimp only at hs
    split at hs
    · exact congrArg (·.1) hs
    · exact congrArg (·.1) hs
  have hempty : whole.isEmpty = false := by simpa using hwhole
  cases s with
  | nil => exact absurd htake.symm hwhole
  | cons d s =>
    have hd : d.isDigit := by
      by_contra hd
      rw [List.takeWhile_cons_of_neg hd] at htake
      exact hwhole htake.symm
    have hinf := ofList_map_toLower_ne hd s (w := "inf") rfl (by decide)
    have hinfinity := ofList_map_toLower_ne hd s (w := "infinity") rfl (by decide)
    have hnan := ofList_map_toLower_ne hd s (w := "nan") rfl (by decide)
    unfold readUnsignedText
    simp only [hinf, hinfinity, hnan, hs, hempty]
    simp [readExponent]

theorem ofDecimal_mul_pow {digits : Nat} (hdigits : 0 < digits) (negative : Bool) (k : Nat)
    (exponent : Int) :
    ofDecimal negative (digits * 10 ^ k) exponent = ofDecimal negative digits (exponent + k) := by
  rw [ofDecimal_eq, ofDecimal_eq, decimalMagnitude_mul_pow hdigits]

section Mantissa

variable {whole fraction : List Char} (hne : whole ≠ []) (hwhole : ∀ c ∈ whole, c.isDigit)

include hne hwhole

theorem readUnsignedText_whole (negative : Bool) :
    readUnsignedText negative whole = some (ofDecimal negative (digitsValue whole) 0) := by
  have htake : whole.takeWhile Char.isDigit = whole := List.takeWhile_eq_self_iff.2 hwhole
  have hdrop : whole.dropWhile Char.isDigit = [] := List.dropWhile_eq_nil_iff.2 hwhole
  have hsplit : splitMantissa whole = (whole, [], []) := by
    unfold splitMantissa
    rw [htake, hdrop]
  rw [readUnsignedText_of_split hsplit hne, List.append_nil]
  rfl

theorem readUnsignedText_point (hfraction : ∀ c ∈ fraction, c.isDigit) (negative : Bool) :
    readUnsignedText negative (whole ++ '.' :: fraction) =
      some (ofDecimal negative (digitsValue (whole ++ fraction)) (-fraction.length)) := by
  have hpoint : ¬ ('.').isDigit := by decide
  have htake : (whole ++ '.' :: fraction).takeWhile Char.isDigit = whole := by
    rw [List.takeWhile_append_of_pos hwhole, List.takeWhile_cons_of_neg hpoint, List.append_nil]
  have hdrop : (whole ++ '.' :: fraction).dropWhile Char.isDigit = '.' :: fraction := by
    rw [List.dropWhile_append_of_pos hwhole, List.dropWhile_cons_of_neg hpoint]
  have hsplit : splitMantissa (whole ++ '.' :: fraction) = (whole, fraction, []) := by
    unfold splitMantissa
    rw [htake, hdrop]
    change (whole, fraction.takeWhile Char.isDigit, fraction.dropWhile Char.isDigit) = _
    rw [List.takeWhile_eq_self_iff.2 hfraction, List.dropWhile_eq_nil_iff.2 hfraction]
  exact readUnsignedText_of_split hsplit hne negative

end Mantissa

theorem readUnsignedText_positionalText {digits : List Char} (hdigits : ∀ c ∈ digits, c.isDigit)
    (hvalue : 0 < digitsValue digits) (negative : Bool) (place : Int) :
    readUnsignedText negative (positionalText false digits place) =
      some (ofDecimal negative (digitsValue digits) (place - digits.length)) := by
  have hne : digits ≠ [] := by
    rintro rfl
    exact Nat.lt_irrefl 0 hvalue
  unfold positionalText
  split
  · -- the point stands before the digits
    have hfraction : ∀ c ∈ List.replicate (-place).toNat '0' ++ digits, c.isDigit := by
      intro c hc
      exact (List.mem_append.1 hc).elim isDigit_of_mem_zeros (hdigits c)
    have hexp : -((List.replicate (-place).toNat '0' ++ digits).length : Int) =
        place - digits.length := by
      rw [List.length_append, List.length_replicate]
      omega
    have hzero : ∀ c ∈ ['0'], c.isDigit := fun c => isDigit_of_mem_zeros (k := 1)
    have hread := readUnsignedText_point (List.cons_ne_nil '0' []) hzero hfraction negative
    rw [hexp, ← List.append_assoc, ← List.replicate_one, List.replicate_append_replicate,
      digitsValue_zeros_append] at hread
    exact hread
  dsimp only
  split
  · -- the point would stand behind the digits and is left out
    have hwhole : ∀ c ∈ digits ++ List.replicate (place.toNat - digits.length) '0', c.isDigit := by
      intro c hc
      exact (List.mem_append.1 hc).elim (hdigits c) isDigit_of_mem_zeros
    have hexp : 0 + ((place.toNat - digits.length : Nat) : Int) = place - digits.length := by omega
    rw [if_neg Bool.false_ne_true, List.append_nil,
      readUnsignedText_whole (List.append_ne_nil_of_left_ne_nil hne _) hwhole,
      digitsValue_append_zeros, ofDecimal_mul_pow hvalue, hexp]
  · -- the point stands between two digits
    have hsome : digits.take place.toNat ≠ [] := by
      rw [Ne, List.take_eq_nil_iff, not_or]
      exact ⟨by omega, hne⟩
    have hexp : -((digits.drop place.toNat).length : Int) = place - digits.length := by
      rw [List.length_drop]
      omega
    rw [readUnsignedText_point hsome (fun c hc => hdigits c (List.mem_of_mem_take hc))
      (fun c hc => hdigits c (List.mem_of_mem_drop hc)), List.take_append_drop, hexp]

theorem ofDecimal_of_readsBack {x : Binary64} {d : Decimal} (h : x.readsBack d) :
    ofDecimal x.isNegative d.digits d.exponent = x := by
  rw [ofDecimal_eq, readsBack_iff.1 h, ofMagnitude_magnitude]

theorem digits_pos_of_readsBack {x : Binary64} {d : Decimal} (h : x.readsBack d)
    (hzero : x.units ≠ 0) : 0 < d.digits := by
  rw [readsBack_iff] at h
  apply Nat.pos_of_ne_zero
  intro hdigits
  rw [hdigits] at h
  exact hzero (units_eq_zero_iff.2 h.symm)

theorem readUnsignedText_sizeText {x : Binary64} (hx : x.isFinite) :
    readUnsignedText x.isNegative (x.sizeText .plain) = some x := by
  unfold sizeText
  split
  · rename_i hzero
    have hdigit : ∀ c ∈ ['0'], c.isDigit := fun c => isDigit_of_mem_zeros (k := 1)
    have hdigits : readUnsignedText x.isNegative ['0'] = some (ofMagnitude x.isNegative 0) := by
      rw [readUnsignedText_whole (List.cons_ne_nil _ _) hdigit, ofDecimal_eq]
      rfl
    rw [← units_eq_zero_iff.1 hzero, ofMagnitude_magnitude] at hdigits
    exact hdigits
  · rename_i hzero
    have hread := readsBack_shortest hx hzero Layout.plain.tie
    generalize shortest Layout.plain.tie x = d at hread
    obtain ⟨k, hk⟩ := stripZeros_append (decimal d.digits)
    have hvalue : digitsValue (stripZeros (decimal d.digits)) * 10 ^ k = d.digits := by
      rw [← digitsValue_append_zeros, hk, digitsValue_decimal]
    have hlength : (decimal d.digits).length = (stripZeros (decimal d.digits)).length + k := by
      rw [← List.length_replicate (n := k) (a := '0'), ← List.length_append, hk]
    have hpos : 0 < digitsValue (stripZeros (decimal d.digits)) := by
      have hdigits := digits_pos_of_readsBack hread hzero
      rw [← hvalue] at hdigits
      exact Nat.pos_of_mul_pos_right hdigits
    have hdigits : ∀ c ∈ stripZeros (decimal d.digits), c.isDigit := by
      intro c hc
      apply isDigit_of_mem_decimal (n := d.digits)
      rw [← hk]
      exact List.mem_append_left _ hc
    change readUnsignedText x.isNegative (positionalText false _ _) = some x
    rw [readUnsignedText_positionalText hdigits hpos]
    have hplace : ((decimal d.digits).length : Int) + d.exponent -
        (stripZeros (decimal d.digits)).length = d.exponent + k := by omega
    rw [hplace, ← ofDecimal_mul_pow hpos, hvalue, ofDecimal_of_readsBack hread]

theorem mem_positionalText {digits : List Char} (hd : ∀ c ∈ digits, c.isDigit) {keepPoint : Bool}
    {place : Int} {c : Char} (hc : c ∈ positionalText keepPoint digits place) :
    c.isDigit ∨ c = '.' := by
  unfold positionalText at hc
  split at hc
  · rcases List.mem_cons.1 hc with rfl | hc
    · exact .inl rfl
    rcases List.mem_cons.1 hc with rfl | hc
    · exact .inr rfl
    exact .inl ((List.mem_append.1 hc).elim isDigit_of_mem_zeros (hd c))
  · dsimp only at hc
    split at hc
    · rcases List.mem_append.1 hc with hc | hc
      · exact .inl ((List.mem_append.1 hc).elim (hd c) isDigit_of_mem_zeros)
      · split at hc
        · rcases List.mem_cons.1 hc with rfl | hc
          · exact .inr rfl
          · exact .inl (isDigit_of_mem_zeros (k := 1) hc)
        · exact absurd hc List.not_mem_nil
    · rcases List.mem_append.1 hc with hc | hc
      · exact .inl (hd c (List.mem_of_mem_take hc))
      rcases List.mem_cons.1 hc with rfl | hc
      · exact .inr rfl
      · exact .inl (hd c (List.mem_of_mem_drop hc))

theorem isDigit_of_mem_stripZeros {digits : List Char} (hd : ∀ c ∈ digits, c.isDigit) {c : Char}
    (hc : c ∈ stripZeros digits) : c.isDigit :=
  hd c (List.mem_reverse.1 (List.dropWhile_subset _ (List.mem_reverse.1 hc)))

def numberMarks : List Char := ['-', '+', '.', 'e']

theorem mem_exponentText {digits : List Char} (hd : ∀ c ∈ digits, c.isDigit) {plusSign : Bool}
    {place : Int} {c : Char} (hc : c ∈ exponentText plusSign digits place) :
    c.isDigit ∨ c ∈ numberMarks := by
  unfold exponentText at hc
  rcases List.mem_append.1 hc with hc | hc
  · match digits, hd, hc with
    | [d], hd, hc => exact .inl (hd c hc)
    | d :: e :: ds, hd, hc =>
      rcases List.mem_cons.1 hc with rfl | hc
      · exact .inl (hd c List.mem_cons_self)
      rcases List.mem_cons.1 hc with rfl | hc
      · exact .inr (by decide)
      · exact .inl (hd c (List.mem_cons_of_mem d hc))
  · rcases List.mem_cons.1 hc with rfl | hc
    · exact .inr (by decide)
    rcases List.mem_append.1 hc with hc | hc
    · split at hc
      · rw [List.mem_singleton.1 hc]
        exact .inr (by decide)
      · exact absurd hc List.not_mem_nil
    · rcases mem_toString_int hc with hd | rfl
      · exact .inl hd
      · exact .inr (by decide)

theorem mem_sizeText {layout : Layout} {x : Binary64} {c : Char} (hc : c ∈ x.sizeText layout) :
    c.isDigit ∨ c ∈ numberMarks := by
  have hdigits (n : Nat) : ∀ c ∈ stripZeros (decimal n), c.isDigit := fun c hc =>
    isDigit_of_mem_stripZeros (fun d hd => isDigit_of_mem_decimal hd) hc
  have hpositional {n : Nat} {place : Int}
      (hc : c ∈ positionalText layout.keepPoint (stripZeros (decimal n)) place) :
      c.isDigit ∨ c ∈ numberMarks :=
    (mem_positionalText (hdigits n) hc).imp_right fun h => by simp [h, numberMarks]
  unfold sizeText at hc
  split at hc
  · split at hc
    · simp only [List.mem_cons, List.not_mem_nil, or_false] at hc
      rcases hc with rfl | rfl | rfl
      · exact .inl rfl
      · exact .inr (by decide)
      · exact .inl rfl
    · rw [List.mem_singleton.1 hc]
      exact .inl (by decide)
  · dsimp only at hc
    split at hc
    · exact hpositional hc
    · split at hc
      · exact hpositional hc
      · exact mem_exponentText (hdigits _) hc

theorem mem_sizeText_plain {x : Binary64} {c : Char} (hc : c ∈ x.sizeText .plain) :
    c.isDigit ∨ c = '.' := by
  unfold sizeText at hc
  split at hc
  · obtain rfl : c = '0' := by simpa [Layout.plain] using hc
    exact .inl rfl
  · refine mem_positionalText (fun c hc => ?_) hc
    exact isDigit_of_mem_stripZeros (fun d hd => isDigit_of_mem_decimal hd) hc

def marks : List Char := ['-', '.', 'N', 'a', 'i', 'n', 'f']

theorem mem_unsigned_plain {x : Binary64} {c : Char}
    (hc : c ∈ if x.isInfinite then "inf".toList else x.sizeText .plain) :
    c.isDigit ∨ c ∈ marks := by
  have hinf : "inf".toList ⊆ marks := by decide
  split at hc
  · exact .inr (hinf hc)
  · rcases mem_sizeText_plain hc with hd | rfl
    · exact .inl hd
    · exact .inr (by decide)

theorem mem_text_plain {x : Binary64} {c : Char} (hc : c ∈ (x.text .plain).toList) :
    c.isDigit ∨ c ∈ marks := by
  have hnan : "NaN".toList ⊆ marks := by decide
  unfold text at hc
  split at hc
  · exact .inr (hnan hc)
  · dsimp only at hc
    rw [String.toList_ofList] at hc
    split at hc
    · rcases List.mem_cons.1 hc with rfl | hc
      · exact .inr (by decide)
      · exact mem_unsigned_plain hc
    · exact mem_unsigned_plain hc

theorem read_signed {size : List Char} (hsize : ∀ c ∈ size, c.isDigit ∨ c = '.')
    (negative : Bool) :
    read (if negative then '-' :: size else size) = readUnsignedText negative size := by
  have hhead {c : Char} {rest : List Char} (hc : ¬ (c.isDigit ∨ c = '.')) : size ≠ c :: rest := by
    rintro rfl
    exact hc (hsize c List.mem_cons_self)
  cases negative with
  | true => rfl
  | false =>
    rw [if_neg Bool.false_ne_true]
    unfold read
    split
    · exact absurd rfl (hhead (by decide))
    · exact absurd rfl (hhead (by decide))
    · rfl

/-- A finite number is read from its text as it was, the sign of a zero included. -/
theorem read_text_plain {x : Binary64} (hx : x.isFinite) :
    read (x.text .plain).toList = some x := by
  have hfin : x.magnitude < infiniteMagnitude := of_decide_eq_true hx
  have hnan : x.isNaN = false := isNaN_of_isFinite hx
  have hinf : x.isInfinite = false := beq_eq_false_iff_ne.2 (Nat.ne_of_lt hfin)
  unfold text
  rw [hnan, hinf]
  simp only [Bool.false_eq_true, if_false, String.toList_ofList]
  rw [read_signed fun c => mem_sizeText_plain, readUnsignedText_sizeText hx]

end UnitTestGen.Binary64
