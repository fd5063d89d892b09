import UnitTestGen.Json.Printer
import UnitTestGen.Proofs.Json.Integers

/-! Printed JSON reads back. A string comes back character by character, each from its escape; a
value comes back with whatever text follows that may follow a value, so elements and members come
back one after the other. Fractions are left out, which need not come back as written, and so is
what has no value. -/

namespace UnitTestGen.Json

/-- Values that have a text of their own: no fractions, and nothing that has no value. -/
inductive Plain : Json → Prop
  | null : Plain .null
  | bool (b : Bool) : Plain (.bool b)
  | integer (negative : Bool) (m : Nat) : Plain (.number (.integer negative m))
  | str (s : String) : Plain (.str s)
  | arr {elems : List Json} (h : ∀ v ∈ elems, Plain v) : Plain (.arr elems)
  | obj {members : List (String × Json)} (h : ∀ m ∈ members, Plain m.2) : Plain (.obj members)

theorem Plain.choice {tag : String} {payload : Json} (h : payload.Plain) :
    (Json.obj [(tag, payload)]).Plain :=
  .obj fun m hm => by rwa [List.mem_singleton.1 hm]

theorem Plain.ofOption {α : Type} {write : α → Json} {o : Option α} (h : ∀ a ∈ o, (write a).Plain) :
    (Json.ofOption write o).Plain := by
  cases o with
  | none => exact .null
  | some a => exact h a rfl

def Follows (rest : List Char) : Prop := ∀ c ∈ rest.head?, c = ',' ∨ c = ']' ∨ c = '\x7d'

theorem readHex4_append {s : List Char} {n : Nat} (h : readHex4 s = some (n, [])) (rest : List Char) :
    readHex4 (s ++ rest) = some (n, rest) := by
  match s, h with
  | a :: b :: c :: d :: s, h =>
    simp only [readHex4, Option.bind_eq_bind, Option.bind_eq_some_iff, Option.some.injEq,
      Prod.mk.injEq, List.cons_append] at h ⊢
    obtain ⟨a', ha, b', hb, c', hc, d', hd, hn, rfl⟩ := h
    exact ⟨a', ha, b', hb, c', hc, d', hd, hn, rfl⟩

theorem readCodeUnit_control {c : Char} (hc : c.toNat < 0x20) (rest : List Char) :
    readCodeUnit (List.replicate (4 - (Text.hexadecimal c.toNat).length) '0' ++
      Text.hexadecimal c.toNat ++ rest) = some (some c, rest) := by
  have hread : ∀ n < 0x20, readHex4 (List.replicate (4 - (Text.hexadecimal n).length) '0' ++
      Text.hexadecimal n) = some (n, []) := by decide
  have hhigh : isHighSurrogate c.toNat = false := by simp [isHighSurrogate]; omega
  have hlow : isLowSurrogate c.toNat = false := by simp [isLowSurrogate]; omega
  unfold readCodeUnit
  rw [readHex4_append (hread c.toNat hc) rest]
  simp [hhigh, hlow]

theorem readStringBody_simple {c e : Char} (he : e ≠ 'u') (h : simpleEscape? e = some c) (fuel : Nat)
    (rest : List Char) : readStringBody (fuel + 1) ('\\' :: e :: rest) =
      (readStringBody fuel rest).map fun (cs, r) => (cs.map (c :: ·), r) := by
  rw [readStringBody, h]
  · cases readStringBody fuel rest <;> rfl
  · exact he

theorem readStringBody_unit {s rest : List Char} {c : Char}
    (h : readCodeUnit s = some (some c, rest)) (fuel : Nat) :
    readStringBody (fuel + 1) ('\\' :: 'u' :: s) =
      (readStringBody fuel rest).map fun (cs, r) => (cs.map (c :: ·), r) := by
  rw [readStringBody, h, Option.bind_eq_bind, Option.bind_some]
  dsimp only
  cases readStringBody fuel rest <;> rfl

theorem readStringBody_raw {c : Char} (hquote : c ≠ '"') (hslash : c ≠ '\\')
    (hcontrol : ¬ c.toNat < 0x20) (fuel : Nat) (rest : List Char) :
    readStringBody (fuel + 1) (c :: rest) =
      (readStringBody fuel rest).map fun (cs, r) => (cs.map (c :: ·), r) := by
  have hraw : ¬ ((decide (c.toNat < 0x20) || c == '\\') = true) := by simpa [hslash] using hcontrol
  rw [readStringBody, if_neg hraw]
  · cases readStringBody fuel rest <;> rfl
  · exact hquote
  · exact fun _ h _ => hslash h
  · exact fun _ _ h _ => hslash h

theorem escape_cases (c : Char) :
    (∃ e ≠ 'u', escape c = ['\\', e] ∧ simpleEscape? e = some c) ∨
    (c.toNat < 0x20 ∧ escape c = '\\' :: 'u' ::
      (List.replicate (4 - (Text.hexadecimal c.toNat).length) '0' ++ Text.hexadecimal c.toNat)) ∨
    (c ≠ '"' ∧ c ≠ '\\' ∧ ¬ c.toNat < 0x20 ∧ escape c = [c]) := by
  unfold escape
  split_ifs with hquote hslash hb hf hn hr ht hcontrol
  any_goals
    obtain rfl := eq_of_beq ‹(c == _) = true›
    exact .inl ⟨_, by decide, rfl, rfl⟩
  · exact .inr (.inl ⟨hcontrol, rfl⟩)
  · exact .inr (.inr ⟨by simpa using hquote, by simpa using hslash, hcontrol, rfl⟩)

theorem readStringBody_escape (fuel : Nat) (c : Char) (rest : List Char) :
    readStringBody (fuel + 1) (escape c ++ rest) =
      (readStringBody fuel rest).map fun (cs, r) => (cs.map (c :: ·), r) := by
  rcases escape_cases c with ⟨e, he, hescape, hsimple⟩ | ⟨hcontrol, hescape⟩ |
    ⟨hquote, hslash, hcontrol, hescape⟩
  · rw [hescape]
    exact readStringBody_simple he hsimple fuel rest
  · rw [hescape]
    exact readStringBody_unit (readCodeUnit_control hcontrol rest) fuel
  · rw [hescape]
    exact readStringBody_raw hquote hslash hcontrol fuel rest

theorem readStringBody_escapes {fuel : Nat} {cs : List Char} (hfuel : cs.length < fuel)
    (rest : List Char) :
    readStringBody fuel (cs.flatMap escape ++ '"' :: rest) = some (some cs, rest) := by
  induction cs generalizing fuel with
  | nil =>
    obtain ⟨fuel, rfl⟩ := Nat.exists_eq_add_one_of_ne_zero (Nat.ne_of_gt hfuel)
    rfl
  | cons c cs ih =>
    obtain ⟨fuel, rfl⟩ := Nat.exists_eq_add_one_of_ne_zero (Nat.ne_of_gt (Nat.zero_lt_of_lt hfuel))
    rw [List.flatMap_cons, List.append_assoc, readStringBody_escape,
      ih (Nat.lt_of_succ_lt_succ hfuel)]
    rfl

theorem length_le_length_escapes (cs : List Char) : cs.length ≤ (cs.flatMap escape).length := by
  induction cs with
  | nil => exact Nat.le_refl 0
  | cons c cs ih =>
    have hpos : 0 < (escape c).length := by
      rcases escape_cases c with ⟨e, -, h, -⟩ | ⟨-, h⟩ | ⟨-, -, -, h⟩ <;> simp [h]
    rw [List.flatMap_cons, List.length_append, List.length_cons]
    omega

theorem readStringBody_stringText (s : String) (rest : List Char) :
    ∃ body, stringText s ++ rest = '"' :: body ∧
      readStringBody (body.length + 1) body = some (some s.toList, rest) := by
  refine ⟨s.toList.flatMap escape ++ '"' :: rest, by simp [stringText], ?_⟩
  apply readStringBody_escapes
  have hlen := length_le_length_escapes s.toList
  rw [List.length_append]
  omega

theorem Follows.endsWhole {rest : List Char} (h : Follows rest) : EndsWhole rest := by
  intro c hc
  rcases h c hc with rfl | rfl | rfl <;> decide

theorem skipSpace_cons {c : Char} (hc : isSpace c = false) (s : List Char) :
    skipSpace (c :: s) = c :: s :=
  List.dropWhile_cons_of_neg (Bool.eq_false_iff.1 hc)

theorem isSpace_of_isDigit {c : Char} (hc : c.isDigit) : isSpace c = false := by
  refine Bool.eq_false_iff.2 fun hspace => ?_
  simp only [isSpace, Bool.or_eq_true, beq_iff_eq] at hspace
  rcases hspace with ((rfl | rfl) | rfl) | rfl <;> exact absurd hc (by decide)

theorem readValue_digit {d : Char} (hd : d.isDigit) (fuel : Nat) (s : List Char) :
    readValue (fuel + 1) (d :: s) = readNumber false (d :: s) := by
  rw [readValue, skipSpace_cons (isSpace_of_isDigit hd)]
  -- none of the other values begins with a digit
  split
  case h_8 => rfl
  all_goals
    rename_i h
    obtain ⟨rfl, -⟩ := List.cons.inj h
    exact absurd hd (by decide)

def ReadsBack (j : Json) : Prop :=
  ∀ (fuel : Nat) (rest : List Char), 2 * (compactChars j).length ≤ fuel → Follows rest →
    readValue fuel (compactChars j ++ rest) = some (j, rest)

theorem Plain.exists_head {j : Json} (hj : j.Plain) :
    ∃ c cs, compactChars j = c :: cs ∧ isSpace c = false ∧ c ≠ ']' := by
  cases hj with
  | null => exact ⟨'n', _, rfl, by decide, by decide⟩
  | bool b =>
    cases b
    · exact ⟨'f', _, rfl, by decide, by decide⟩
    · exact ⟨'t', _, rfl, by decide, by decide⟩
  | integer negative m =>
    cases negative with
    | true => exact ⟨'-', _, rfl, by decide, by decide⟩
    | false =>
      obtain ⟨d, ds, hds⟩ := List.exists_cons_of_ne_nil (Text.decimal_ne_nil m)
      have hd : d.isDigit := Text.isDigit_of_mem_decimal (hds ▸ List.mem_cons_self)
      refine ⟨d, ds, hds, isSpace_of_isDigit hd, ?_⟩
      rintro rfl
      exact absurd hd (by decide)
  | str s => exact ⟨'"', _, rfl, by decide, by decide⟩
  | arr h => exact ⟨'[', _, rfl, by decide, by decide⟩
  | obj h => exact ⟨'\x7b', _, rfl, by decide, by decide⟩

theorem readElems_last {fuel : Nat} {s rest : List Char} {v : Json}
    (h : readValue fuel s = some (v, ']' :: rest)) :
    readElems (fuel + 1) s = some ([v], rest) := by
  rw [readElems, h]
  rfl

theorem readElems_next {fuel : Nat} {s more : List Char} {v : Json}
    (h : readValue fuel s = some (v, ',' :: more)) :
    readElems (fuel + 1) s = (readElems fuel more).map fun (vs, r) => (v :: vs, r) := by
  rw [readElems, h]
  change ((readElems fuel more).bind fun x => some (v :: x.1, x.2)) = _
  cases readElems fuel more <;> rfl

theorem readMembers_last {fuel : Nat} {s t rest key : List Char} {v : Json}
    (hkey : readStringBody (s.length + 1) s = some (some key, ':' :: t))
    (hv : readValue fuel t = some (v, '\x7d' :: rest)) :
    readMembers (fuel + 1) ('"' :: s) = some ([(some (String.ofList key), v)], rest) := by
  rw [readMembers]
  change ((readStringBody (s.length + 1) s).bind _) = _
  rw [hkey]
  change ((readValue fuel t).bind _) = _
  rw [hv]
  rfl

theorem readMembers_next {fuel : Nat} {s t more key : List Char} {v : Json}
    (hkey : readStringBody (s.length + 1) s = some (some key, ':' :: t))
    (hv : readValue fuel t = some (v, ',' :: more)) :
    readMembers (fuel + 1) ('"' :: s) =
      (readMembers fuel more).map fun (ms, r) => ((some (String.ofList key), v) :: ms, r) := by
  rw [readMembers]
  change ((readStringBody (s.length + 1) s).bind _) = _
  rw [hkey]
  change ((readValue fuel t).bind _) = _
  rw [hv]
  change ((readMembers fuel more).bind fun x => some ((some (String.ofList key), v) :: x.1, x.2)) = _
  cases readMembers fuel more <;> rfl

theorem readElems_compactElems {elems : List Json} (hne : elems ≠ [])
    (h : ∀ v ∈ elems, v.ReadsBack) {fuel : Nat} (rest : List Char)
    (hfuel : 2 * (compactElems elems).length + 1 ≤ fuel) :
    readElems fuel (compactElems elems ++ ']' :: rest) = some (elems, rest) := by
  induction elems generalizing fuel with
  | nil => exact absurd rfl hne
  | cons v vs ih =>
    obtain ⟨fuel, rfl⟩ := Nat.exists_eq_add_one_of_ne_zero (Nat.ne_of_gt (Nat.zero_lt_of_lt hfuel))
    have hv := h v List.mem_cons_self
    cases vs with
    | nil =>
      exact readElems_last (hv fuel (']' :: rest) (Nat.le_of_succ_le_succ hfuel) (by simp [Follows]))
    | cons w ws =>
      have htext : compactElems (v :: w :: ws) ++ ']' :: rest =
          compactChars v ++ ',' :: (compactElems (w :: ws) ++ ']' :: rest) := by
        simp [compactElems]
      have hlen : (compactElems (v :: w :: ws)).length =
          (compactChars v).length + (compactElems (w :: ws)).length + 1 := by
        simp [compactElems]
        omega
      rw [hlen] at hfuel
      rw [htext, readElems_next (hv fuel _ (by omega) (by simp [Follows])),
        ih (List.cons_ne_nil w ws) (fun u hu => h u (List.mem_cons_of_mem v hu)) (by omega)]
      rfl

theorem readMembers_compactMembers {members : List (String × Json)} (hne : members ≠ [])
    (h : ∀ m ∈ members, m.2.ReadsBack) {fuel : Nat} (rest : List Char)
    (hfuel : 2 * (compactMembers members).length + 1 ≤ fuel) :
    readMembers fuel (compactMembers members ++ '\x7d' :: rest) =
      some (members.map fun m => (some m.1, m.2), rest) := by
  induction members generalizing fuel with
  | nil => exact absurd rfl hne
  | cons m ms ih =>
    obtain ⟨fuel, rfl⟩ := Nat.exists_eq_add_one_of_ne_zero (Nat.ne_of_gt (Nat.zero_lt_of_lt hfuel))
    obtain ⟨k, v⟩ := m
    have hv : v.ReadsBack := h (k, v) List.mem_cons_self
    cases ms with
    | nil =>
      obtain ⟨body, hbody, hkey⟩ :=
        readStringBody_stringText k (':' :: (compactChars v ++ '\x7d' :: rest))
      have htext : compactMembers [(k, v)] ++ '\x7d' :: rest = '"' :: body := by
        rw [← hbody]
        simp [compactMembers]
      have hlen : 2 * (compactChars v).length ≤ fuel := by
        simp [compactMembers] at hfuel
        omega
      rw [htext, readMembers_last hkey (hv fuel _ hlen (by simp [Follows]))]
      simp
    | cons n ns =>
      obtain ⟨body, hbody, hkey⟩ := readStringBody_stringText k
        (':' :: (compactChars v ++ ',' :: (compactMembers (n :: ns) ++ '\x7d' :: rest)))
      have htext : compactMembers ((k, v) :: n :: ns) ++ '\x7d' :: rest = '"' :: body := by
        rw [← hbody]
        simp [compactMembers]
      have hlen : (compactChars v).length + (compactMembers (n :: ns)).length + 1 ≤
          (compactMembers ((k, v) :: n :: ns)).length := by
        simp [compactMembers]
        omega
      rw [htext, readMembers_next hkey (hv fuel _ (by omega) (by simp [Follows])),
        ih (List.cons_ne_nil n ns) (fun u hu => h u (List.mem_cons_of_mem _ hu)) (by omega)]
      simp

theorem ofMembers_some (members : List (String × Json)) :
    ofMembers (members.map fun m => (some m.1, m.2)) = .obj members := by
  have hkeys (f : Option String × Json → Option (String × Json))
      (hf : ∀ k v, f (some k, v) = some (k, v)) :
      (members.map fun m => (some m.1, m.2)).mapM f = some members := by
    induction members with
    | nil => rfl
    | cons m ms ih =>
      rw [List.map_cons, List.mapM_cons, ih, hf]
      rfl
  rw [ofMembers, hkeys _ fun _ _ => rfl]

theorem readValue_elems {fuel : Nat} {c : Char} {cs rest : List Char} {elems : List Json}
    (hspace : isSpace c = false) (hclose : c ≠ ']')
    (h : readElems fuel (c :: cs) = some (elems, rest)) :
    readValue (fuel + 1) ('[' :: c :: cs) = some (.arr elems, rest) := by
  have hopen : skipSpace ('[' :: c :: cs) = '[' :: c :: cs := skipSpace_cons (by decide) _
  simp only [readValue, hopen, skipSpace_cons hspace]
  split
  · exact absurd (List.cons.inj ‹_›).1 hclose
  · rw [h]
    rfl

theorem readValue_members {fuel : Nat} {s rest : List Char} {members : List (String × Json)}
    (h : readMembers fuel ('"' :: s) = some (members.map fun m => (some m.1, m.2), rest)) :
    readValue (fuel + 1) ('\x7b' :: '"' :: s) = some (.obj members, rest) := by
  rw [readValue]
  change ((readMembers fuel ('"' :: s)).bind fun x => some (ofMembers x.1, x.2)) = _
  rw [h, Option.bind_some, ofMembers_some]

theorem Plain.readsBack_of_succ {j : Json} (hj : j.Plain)
    (h : ∀ (fuel : Nat) (rest : List Char), 2 * (compactChars j).length ≤ fuel + 1 → Follows rest →
      readValue (fuel + 1) (compactChars j ++ rest) = some (j, rest)) : j.ReadsBack := by
  intro fuel rest hfuel hrest
  obtain ⟨c, cs, htext, -, -⟩ := hj.exists_head
  cases fuel with
  | zero => simp [htext] at hfuel
  | succ fuel => exact h fuel rest hfuel hrest

theorem Plain.readsBack {j : Json} (hj : j.Plain) : j.ReadsBack := by
  induction hj with
  | null => exact Plain.null.readsBack_of_succ fun _ _ _ _ => rfl
  | bool b =>
    refine (Plain.bool b).readsBack_of_succ fun _ _ _ _ => ?_
    cases b <;> rfl
  | integer negative m =>
    refine (Plain.integer negative m).readsBack_of_succ fun fuel rest _ hrest => ?_
    cases negative with
    | true => exact readNumber_decimal true m hrest.endsWhole
    | false =>
      obtain ⟨d, ds, hds⟩ := List.exists_cons_of_ne_nil (Text.decimal_ne_nil m)
      have hd : d.isDigit := Text.isDigit_of_mem_decimal (hds ▸ List.mem_cons_self)
      have hread := readNumber_decimal false m hrest.endsWhole
      rw [hds, List.cons_append, ← readValue_digit hd fuel, ← List.cons_append, ← hds] at hread
      exact hread
  | str s =>
    refine (Plain.str s).readsBack_of_succ fun fuel rest _ _ => ?_
    obtain ⟨body, hbody, hread⟩ := readStringBody_stringText s rest
    rw [compactChars, hbody, readValue]
    change ((readStringBody (body.length + 1) body).bind _) = _
    rw [hread]
    simp
  | @arr elems h ih =>
    refine (Plain.arr h).readsBack_of_succ fun fuel rest hfuel _ => ?_
    cases elems with
    | nil => rfl
    | cons v vs =>
      have hlen : 2 * (compactElems (v :: vs)).length + 1 ≤ fuel := by
        simp [compactChars] at hfuel
        omega
      have hread := readElems_compactElems (List.cons_ne_nil v vs) ih rest hlen
      obtain ⟨c, cs, htext, hspace, hclose⟩ := (h v List.mem_cons_self).exists_head
      have helems : ∃ cs', compactElems (v :: vs) ++ ']' :: rest = c :: cs' := by
        cases vs <;> simp [compactElems, htext]
      obtain ⟨cs', hcs'⟩ := helems
      rw [hcs'] at hread
      have hvalue := readValue_elems hspace hclose hread
      rw [← hcs'] at hvalue
      simpa [compactChars] using hvalue
  | @obj members h ih =>
    refine (Plain.obj h).readsBack_of_succ fun fuel rest hfuel _ => ?_
    cases members with
    | nil => rfl
    | cons m ms =>
      have hlen : 2 * (compactMembers (m :: ms)).length + 1 ≤ fuel := by
        simp [compactChars] at hfuel
        omega
      have hread := readMembers_compactMembers (List.cons_ne_nil m ms) ih rest hlen
      have hmembers : ∃ cs, compactMembers (m :: ms) ++ '\x7d' :: rest = '"' :: cs := by
        cases ms <;> simp [compactMembers, stringText]
      obtain ⟨cs, hcs⟩ := hmembers
      rw [hcs] at hread
      have hvalue := readValue_members hread
      rw [← hcs] at hvalue
      simpa [compactChars] using hvalue

theorem ofText_compact {j : Json} (hj : j.Plain) : ofText (compact j) = some j := by
  have hread := hj.readsBack (2 * (compactChars j).length + 2) [] (by omega) (by simp [Follows])
  rw [List.append_nil] at hread
  unfold ofText read compact
  rw [String.toList_ofList, hread]
  rfl

end UnitTestGen.Json
