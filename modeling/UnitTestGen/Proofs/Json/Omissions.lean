import UnitTestGen.Json.Decode
import UnitTestGen.Proofs.Json.Reading
import UnitTestGen.Proofs.Pointwise

/-! Values with members left out. A member that holds a default may be missing wherever it stands in
a value, and a reader of records finds the others under their keys. A reader is said here to read a
value as a result if it does so whatever is left out, which goes through lists and records part by
part; the depth of nesting is what the readers count down. -/

namespace UnitTestGen.Json

/-- A member that may be left out, as its key stands for an empty list or for nothing then. -/
inductive IsDefault : String → Json → Prop
  | empty {key : String} (h : key ∈ ["generics", "traits", "bounds", "params"]) :
      IsDefault key (.arr [])
  | null {key : String}
      (h : key ∈ ["parent", "return_type", "ret", "src_file", "of_trait", "name"]) :
      IsDefault key .null

theorem not_isDefault {key : String} {v : Json} (hkey : key ∉ ["generics", "traits", "bounds",
    "params", "parent", "return_type", "ret", "src_file", "of_trait", "name"]) :
    ¬ IsDefault key v := by
  intro h
  cases h <;> simp_all

theorem not_isDefault_str {key s : String} : ¬ IsDefault key (.str s) := by
  rintro ⟨⟩

theorem eq_nil_of_isDefault {α : Type} {key : String} {write : α → Json} {as : List α}
    (h : IsDefault key (.arr (as.map write))) : as = [] := by
  cases as with
  | nil => rfl
  | cons a as =>
    rw [List.map_cons] at h
    cases h

theorem eq_none_of_isDefault {α : Type} {key : String} {write : α → Json}
    (hwrite : ∀ a, ¬ IsDefault key (write a)) {o : Option α}
    (h : IsDefault key (.ofOption write o)) : o = none := by
  cases o with
  | none => rfl
  | some a => exact absurd h (hwrite a)

inductive Kept (R : Json → Json → Prop) : List (String × Json) → List (String × Json) → Prop
  | nil : Kept R [] []
  | keep {key : String} {v v' : Json} {ms ms' : List (String × Json)} (hv : R v v')
      (h : Kept R ms ms') : Kept R ((key, v) :: ms) ((key, v') :: ms')
  | drop {key : String} {v : Json} {ms ms' : List (String × Json)} (hv : IsDefault key v)
      (h : Kept R ms ms') : Kept R ((key, v) :: ms) ms'

/-- The second value is the first one without some members that hold a default, at any depth. -/
inductive Thinned : Json → Json → Prop
  | null : Thinned .null .null
  | bool (b : Bool) : Thinned (.bool b) (.bool b)
  | number (n : Numeral) : Thinned (.number n) (.number n)
  | str (s : String) : Thinned (.str s) (.str s)
  | arr {elems elems' : List Json} (h : List.Forall₂ Thinned elems elems') :
      Thinned (.arr elems) (.arr elems')
  | obj {members members' : List (String × Json)} (h : Kept Thinned members members') :
      Thinned (.obj members) (.obj members')

def nestsWithin : Nat → Json → Bool
  | 0, .arr _ | 0, .obj _ => false
  | depth + 1, .arr elems => elems.all (nestsWithin depth)
  | depth + 1, .obj members => members.all fun m => nestsWithin depth m.2
  | _, _ => true

theorem Kept.exists_of_mem {R : Json → Json → Prop} {ms ms' : List (String × Json)}
    (h : Kept R ms ms') {m' : String × Json} (hm : m' ∈ ms') :
    ∃ m ∈ ms, m.1 = m'.1 ∧ R m.2 m'.2 := by
  induction h with
  | nil => cases hm
  | keep hv h ih =>
    rcases List.mem_cons.1 hm with rfl | hm
    · exact ⟨_, List.mem_cons_self, rfl, hv⟩
    · obtain ⟨m, hmem, hkey, hR⟩ := ih hm
      exact ⟨m, List.mem_cons_of_mem _ hmem, hkey, hR⟩
  | drop hv h ih =>
    obtain ⟨m, hmem, hkey, hR⟩ := ih hm
    exact ⟨m, List.mem_cons_of_mem _ hmem, hkey, hR⟩

theorem Kept.keys_sublist {R : Json → Json → Prop} {ms ms' : List (String × Json)}
    (h : Kept R ms ms') : (ms'.map (·.1)).Sublist (ms.map (·.1)) := by
  induction h with
  | nil => exact .slnil
  | keep hv h ih => exact ih.cons_cons _
  | drop hv h ih => exact ih.cons _

namespace Plain

theorem thinned_self {j : Json} (hj : j.Plain) : Thinned j j := by
  induction hj with
  | null => exact .null
  | bool b => exact .bool b
  | integer negative m => exact .number _
  | str s => exact .str s
  | arr h ih => exact .arr (List.forall₂_same.2 ih)
  | @obj members h ih =>
    refine .obj ?_
    clear h
    induction members with
    | nil => exact .nil
    | cons m ms ih' =>
      exact .keep (ih m List.mem_cons_self) (ih' fun n hn => ih n (List.mem_cons_of_mem m hn))

theorem of_thinned {j j' : Json} (hj : j.Plain) (h : Thinned j j') : j'.Plain := by
  induction hj generalizing j' with
  | null => cases h; exact .null
  | bool b => cases h; exact .bool b
  | integer negative m => cases h; exact .integer negative m
  | str s => cases h; exact .str s
  | arr _ ih =>
    cases h with
    | arr h =>
      refine .arr fun v' hv' => ?_
      obtain ⟨v, hv, hR⟩ := exists_of_mem_forall₂ h hv'
      exact ih v hv hR
  | obj _ ih =>
    cases h with
    | obj h =>
      refine .obj fun m' hm' => ?_
      obtain ⟨m, hm, -, hR⟩ := h.exists_of_mem hm'
      exact ih m hm hR

end Plain

theorem Thinned.nestsWithin {j j' : Json} (h : Thinned j j') {depth : Nat}
    (hd : j.nestsWithin depth) : j'.nestsWithin depth := by
  induction depth generalizing j j' with
  | zero => cases h <;> first | rfl | cases hd
  | succ depth ih =>
    cases h with
    | null | bool | number | str => rfl
    | arr h =>
      refine List.all_eq_true.2 fun v' hv' => ?_
      obtain ⟨v, hv, hR⟩ := exists_of_mem_forall₂ h hv'
      exact ih hR (List.all_eq_true.1 hd v hv)
    | obj h =>
      refine List.all_eq_true.2 fun m' hm' => ?_
      obtain ⟨m, hm, -, hR⟩ := h.exists_of_mem hm'
      exact ih hR (List.all_eq_true.1 hd m hm)

def ReadsAs {α : Type} (read : Json → Option α) (depth : Nat) (j : Json) (a : α) : Prop :=
  ∀ j', Thinned j j' → j'.nestsWithin depth → read j' = some a

def Found (depth : Nat) (key : String) (v : Json) : Option Json → Prop
  | some v' => Thinned v v' ∧ v'.nestsWithin depth
  | none => IsDefault key v

theorem Kept.found {depth : Nat} {ms ms' : List (String × Json)} (h : Kept Thinned ms ms')
    (hkeys : (ms.map (·.1)).Nodup) (hd : ∀ m ∈ ms', m.2.nestsWithin depth)
    {m : String × Json} (hm : m ∈ ms) :
    Found depth m.1 m.2 ((ms'.find? (·.1 == m.1)).map (·.2)) := by
  induction h with
  | nil => cases hm
  | @keep key v v' ms ms' hv h ih =>
    rw [List.map_cons, List.nodup_cons] at hkeys
    rcases List.mem_cons.1 hm with rfl | htail
    · rw [List.find?_cons_of_pos (by simp)]
      exact ⟨hv, hd _ List.mem_cons_self⟩
    · have hne : key ≠ m.1 := by
        rintro rfl
        exact hkeys.1 (List.mem_map_of_mem (f := (·.1)) htail)
      rw [List.find?_cons_of_neg (by simpa using hne)]
      exact ih hkeys.2 (fun n hn => hd n (List.mem_cons_of_mem _ hn)) htail
  | @drop key v ms ms' hv h ih =>
    rw [List.map_cons, List.nodup_cons] at hkeys
    rcases List.mem_cons.1 hm with rfl | hm
    · have hnone : ms'.find? (·.1 == key) = none := by
        refine List.find?_eq_none.2 fun n hn hkey => hkeys.1 ?_
        rw [← eq_of_beq hkey]
        exact h.keys_sublist.subset (List.mem_map_of_mem (f := (·.1)) hn)
      rw [hnone]
      exact hv
    · exact ih hkeys.2 hd hm

theorem fields?_of_thinned {members : List (String × Json)} (names : List String)
    (hnames : members.map (·.1) = names) (hkeys : names.Nodup) {j : Json} {depth : Nat}
    (h : Thinned (.obj members) j) (hd : j.nestsWithin depth) :
    ∃ inner field, depth = inner + 1 ∧ fields? names j = some field ∧
      ∀ key v, (key, v) ∈ members → Found inner key v (field key) := by
  subst hnames
  cases h with
  | @obj _ members' h =>
    cases depth with
    | zero => cases hd
    | succ inner =>
      have honce : ((members.map (·.1)).all fun name => members'.countP (·.1 == name) ≤ 1) = true := by
        refine List.all_eq_true.2 fun name _ => decide_eq_true ?_
        have hcount := List.nodup_iff_count.1 (hkeys.sublist h.keys_sublist) name
        rw [List.count_eq_countP, List.countP_map] at hcount
        exact hcount
      refine ⟨inner, _, rfl, if_pos honce, fun key v hm => ?_⟩
      exact h.found hkeys (List.all_eq_true.1 hd) hm

namespace Found

variable {α : Type} {read : Json → Option α} {depth : Nat} {key : String} {v : Json} {a : α}
  {field : Option Json}

theorem required (h : Found depth key v field) (hkey : ¬ IsDefault key v)
    (hread : ReadsAs read depth v a) : required read field = some a := by
  cases field with
  | none => exact absurd h hkey
  | some v' => exact hread v' h.1 h.2

theorem withDefault {default : α} (h : Found depth key v field)
    (hdefault : IsDefault key v → a = default) (hread : ReadsAs read depth v a) :
    withDefault default read field = some a := by
  cases field with
  | none => exact congrArg some (hdefault h).symm
  | some v' => exact hread v' h.1 h.2

end Found

section Readers

variable {α : Type} {read : Json → Option α} {depth : Nat}

theorem readsAs_asString (s : String) : ReadsAs asString depth (.str s) s := by
  rintro _ ⟨⟩ _
  rfl

theorem readsAs_asBool (b : Bool) : ReadsAs asBool depth (.bool b) b := by
  rintro _ ⟨⟩ _
  rfl

theorem readsAs_asUInt64 (n : UInt64) : ReadsAs asUInt64 depth (.ofNat n.toNat) n := by
  rintro _ ⟨⟩ _
  have hvalue : (Numeral.integer false n.toNat).value = some (.integer n.toNat) :=
    if_pos n.toNat_lt_size
  have hlt : (n.toNat : Int) < UInt64.size := Int.ofNat_lt.2 n.toNat_lt_size
  have hnat : asNat UInt64.size (.number (.integer false n.toNat)) = some n.toNat := by
    simp only [asNat, hvalue]
    exact if_pos ⟨Int.natCast_nonneg _, hlt⟩
  rw [asUInt64, hnat, Option.map_some, UInt64.ofNat_toNat]

theorem readsAs_nullable {write : α → Json} (hne : ∀ a, write a ≠ .null) {o : Option α}
    (h : ∀ a ∈ o, ReadsAs read depth (write a) a) :
    ReadsAs (nullable read) depth (ofOption write o) o := by
  intro j hj hd
  cases o with
  | none =>
    cases hj
    rfl
  | some a =>
    have hread := h a rfl j hj hd
    have hnull : j ≠ .null := by
      rintro rfl
      cases hw : write a <;> rw [ofOption, hw] at hj <;> cases hj
      exact hne a hw
    unfold nullable
    split
    · exact absurd rfl hnull
    · rw [hread]
      rfl

theorem Found.string {key s : String} {field : Option Json} (h : Found depth key (.str s) field) :
    Json.required asString field = some s :=
  h.required not_isDefault_str (readsAs_asString s)

theorem Found.optionalString {key : String} {s : Option String} {field : Option Json}
    (h : Found depth key (.ofOption .str s) field) :
    Json.withDefault none (nullable asString) field = some s :=
  h.withDefault (eq_none_of_isDefault fun _ => not_isDefault_str)
    (readsAs_nullable (fun _ => by simp) fun s _ => readsAs_asString s)

theorem readsAs_asList {read : Nat → Json → Option α} {write : α → Json} {as : List α}
    (h : ∀ a ∈ as, ∀ depth, ReadsAs (read depth) depth (write a) a) :
    ReadsAs (asList depth read) depth (.arr (as.map write)) as := by
  rintro _ ⟨⟩ hd
  rename_i elems hj
  cases depth with
  | zero => cases hd
  | succ depth =>
    replace hd : ∀ v ∈ elems, v.nestsWithin depth := List.all_eq_true.1 hd
    change elems.mapM (read depth) = some as
    rw [List.forall₂_map_left_iff] at hj
    induction hj with
    | nil => rfl
    | @cons a v as elems hav hj ih =>
      have hhead := h a List.mem_cons_self depth v hav (hd v List.mem_cons_self)
      have htail := ih (fun b hb => h b (List.mem_cons_of_mem a hb))
        fun w hw => hd w (List.mem_cons_of_mem v hw)
      rw [List.mapM_cons, hhead, htail]
      rfl

theorem thinned_choice {tag : String} {payload j : Json} (htag : ¬ IsDefault tag payload)
    (h : Thinned (.obj [(tag, payload)]) j) (hd : j.nestsWithin depth) :
    ∃ inner payload', depth = inner + 1 ∧ j = .obj [(tag, payload')] ∧
      Thinned payload payload' ∧ payload'.nestsWithin inner := by
  cases h with
  | obj h =>
    cases h with
    | keep hv h =>
      cases h with
      | nil =>
        cases depth with
        | zero => cases hd
        | succ inner => exact ⟨inner, _, rfl, rfl, hv, List.all_eq_true.1 hd _ List.mem_cons_self⟩
    | drop hv h => exact absurd hv htag

theorem thinned_recordChoice {tag : String} {members : List (String × Json)}
    (htag : ¬ IsDefault tag (.obj members)) (names : List String) (hnames : members.map (·.1) = names)
    (hkeys : names.Nodup) {j : Json} (h : Thinned (.obj [(tag, .obj members)]) j)
    (hd : j.nestsWithin depth) :
    ∃ inner payload field, depth = inner + 2 ∧ j = .obj [(tag, payload)] ∧
      fields? names payload = some field ∧
        ∀ key v, (key, v) ∈ members → Found inner key v (field key) := by
  obtain ⟨outer, payload, rfl, rfl, hpayload, houter⟩ := thinned_choice htag h hd
  obtain ⟨inner, field, rfl, hfields, hfound⟩ := fields?_of_thinned names hnames hkeys hpayload houter
  exact ⟨inner, payload, field, rfl, rfl, hfields, hfound⟩

end Readers

end UnitTestGen.Json
