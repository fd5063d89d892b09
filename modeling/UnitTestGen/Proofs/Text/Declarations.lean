import UnitTestGen.Proofs.Text.Numeral
import UnitTestGen.Proofs.Ty.Stems
import UnitTestGen.Text.Quoted

/-! The variables that a source text declares. A reader goes through the text, passes over the
literals in quotes, and takes what is left as words; each word `let` declares what comes next. Texts
that are put together with something between their words declare what each of them declares. -/

namespace UnitTestGen.Text

/-- Where a reader of source text stands: outside of literals or inside of one, and there perhaps
behind a backslash. -/
inductive Place where
  | code
  | literal (quote : Char)
  | escaped (quote : Char)
  deriving DecidableEq

def isQuote (c : Char) : Bool := c == '"' || c == '\''

def Place.next : Place → Char → Place
  | code, c => if isQuote c then literal c else code
  | literal quote, c =>
    if c = quote then code else if c = '\\' then escaped quote else literal quote
  | escaped quote, _ => literal quote

def Place.sees (p : Place) (c : Char) : Char := if p = code ∧ p.next c = code then c else ' '

def blanked (p : Place) : List Char → List Char
  | [] => []
  | c :: s => p.sees c :: blanked (p.next c) s

def nameWords (s : List Char) : List (List Char) :=
  (s.splitOnP (!isNameChar ·)).filter (· ≠ [])

def declared : List (List Char) → Bool × String
  | [] => (false, "")
  | w :: ws => if w = "mut".toList then (true, String.ofList (ws.headD [])) else
    (false, String.ofList w)

def declarations : List (List Char) → List (Bool × String)
  | [] => []
  | w :: ws => if w = "let".toList then declared ws :: declarations ws else declarations ws

/-- What the `let`s of a source text declare, in order. -/
def lets (s : String) : List (Bool × String) :=
  declarations (nameWords (blanked .code s.toList))

/-- The characters that begin or end a literal, a comment, a statement, a block or the parameters of
a closure, and the marks beyond ASCII that separate words. -/
def delimiters : List Char := "\"'/;\x7b\x7d|\u0085\u200e\u200f\u2028\u2029".toList

def declarators : List (List Char) :=
  ["let", "const", "static", "struct", "use"].map String.toList

/-- A name that holds no text of a statement. -/
def isPlain (name : String) : Bool :=
  name.toList.all (!delimiters.contains ·) &&
    (nameWords name.toList).all (!declarators.contains ·)

theorem not_isQuote_of_isNameChar {c : Char} (hc : isNameChar c) : ¬ isQuote c := by
  intro hq
  rcases Bool.or_eq_true_iff.1 hq with hq | hq <;> rw [eq_of_beq hq] at hc <;>
    exact absurd hc (by decide)

theorem nameWords_append_cons {c : Char} (hc : ¬ isNameChar c) (s t : List Char) :
    nameWords (s ++ c :: t) = nameWords s ++ nameWords t := by
  rw [nameWords, List.splitOnP_append_cons s t (by simpa using hc), List.filter_append]
  rfl

theorem nameWords_cons {c : Char} (hc : ¬ isNameChar c) (s : List Char) :
    nameWords (c :: s) = nameWords s :=
  nameWords_append_cons hc [] s

theorem nameWords_append {s t : List Char}
    (h : (∀ c ∈ s.getLast?, ¬ isNameChar c) ∨ ∀ c ∈ t.head?, ¬ isNameChar c) :
    nameWords (s ++ t) = nameWords s ++ nameWords t := by
  rcases h with hs | ht
  · rcases List.eq_nil_or_concat s with rfl | ⟨s, c, rfl⟩
    · rfl
    · have hc : ¬ isNameChar c := hs c (by simp)
      rw [List.concat_eq_append, List.append_assoc, List.singleton_append,
        nameWords_append_cons hc, nameWords_append_cons hc, show nameWords [] = [] from rfl,
        List.append_nil]
  · cases t with
    | nil => simp [nameWords]
    | cons c t =>
      have hc : ¬ isNameChar c := ht c rfl
      rw [nameWords_append_cons hc, nameWords_cons hc]

theorem nameWords_eq_singleton {w : List Char} (hne : w ≠ []) (hw : ∀ c ∈ w, isNameChar c) :
    nameWords w = [w] := by
  rw [nameWords, List.splitOnP_eq_singleton (by simpa using hw), List.filter_cons_of_pos (by simpa),
    List.filter_nil]

theorem nameWords_eq_nil {s : List Char} (hs : ∀ c ∈ s, ¬ isNameChar c) : nameWords s = [] := by
  induction s with
  | nil => rfl
  | cons c s ih =>
    obtain ⟨hc, hs⟩ := List.forall_mem_cons.1 hs
    rw [nameWords_cons hc, ih hs]

theorem mem_of_mem_nameWords {s w : List Char} (hw : w ∈ nameWords s) : w ⊆ s := by
  replace hw := (List.mem_filter.1 hw).1
  induction s generalizing w with
  | nil => simp_all
  | cons c s ih =>
    rw [List.splitOnP_cons_eq_if_modifyHead] at hw
    split at hw
    · rcases List.mem_cons.1 hw with rfl | hw
      · exact List.nil_subset _
      · exact List.Subset.trans (ih hw) (List.subset_cons_self c s)
    · cases hsplit : s.splitOnP (!isNameChar ·) with
      | nil => simp [hsplit] at hw
      | cons v vs =>
        rw [hsplit] at ih hw
        rcases List.mem_cons.1 hw with rfl | hw
        · exact List.cons_subset_cons c (ih List.mem_cons_self)
        · exact List.Subset.trans (ih (List.mem_cons_of_mem v hw)) (List.subset_cons_self c s)

theorem blanked_append (p : Place) (s t : List Char) :
    blanked p (s ++ t) = blanked p s ++ blanked (s.foldl Place.next p) t := by
  induction s generalizing p with
  | nil => rfl
  | cons c s ih => simp [blanked, ih]

theorem blanked_of_unquoted {s : List Char} (hs : ∀ c ∈ s, ¬ isQuote c) :
    s.foldl Place.next .code = .code ∧ blanked .code s = s := by
  induction s with
  | nil => exact ⟨rfl, rfl⟩
  | cons c s ih =>
    obtain ⟨hc, hs⟩ := List.forall_mem_cons.1 hs
    simp [blanked, Place.sees, Place.next, hc, ih hs]

theorem Place.not_isNameChar_sees {c : Char} (hc : ¬ isNameChar c) (p : Place) :
    ¬ isNameChar (p.sees c) := by
  unfold sees
  split
  · exact hc
  · decide

/-- A text has its literals closed, and its `let`s declare this whatever words stand behind it. -/
structure Declares (s : String) (ds : List (Bool × String)) : Prop where
  closed : s.toList.foldl Place.next .code = .code
  declarations_append (ws : List (List Char)) :
    declarations (nameWords (blanked .code s.toList) ++ ws) = ds ++ declarations ws

def Apart (s t : String) : Prop :=
  (∀ c ∈ s.toList.getLast?, ¬ isNameChar c) ∨ ∀ c ∈ t.toList.head?, ¬ isNameChar c

theorem Apart.blanked {s t : String} (h : Apart s t) (p q : Place) :
    (∀ c ∈ (blanked p s.toList).getLast?, ¬ isNameChar c) ∨
      ∀ c ∈ (blanked q t.toList).head?, ¬ isNameChar c := by
  rcases h with hs | ht
  · rcases List.eq_nil_or_concat s.toList with hnil | ⟨u, c, hu⟩
    · simp [hnil, Text.blanked]
    · have hc : ¬ isNameChar c := hs c (by simp [hu])
      simpa [hu, blanked_append, Text.blanked] using Or.inl (Place.not_isNameChar_sees hc _)
  · cases htext : t.toList with
    | nil => simp [Text.blanked]
    | cons c u =>
      have hc : ¬ isNameChar c := ht c (by simp [htext])
      simpa [Text.blanked] using Or.inr (Place.not_isNameChar_sees hc q)

def isSilent (s : String) : Bool :=
  s.toList.foldl Place.next .code == .code &&
    !(nameWords (blanked .code s.toList)).contains "let".toList

def isOpening (s : String) : Bool := isSilent s && s.toList.getLast?.any (!isNameChar ·)

def isClosing (s : String) : Bool := isSilent s && s.toList.head?.any (!isNameChar ·)

def isSeparator (s : String) : Bool := isClosing s && isOpening s

theorem not_isNameChar_of_any {o : Option Char} (h : o.any (!isNameChar ·)) :
    ∀ c ∈ o, ¬ isNameChar c := by
  obtain ⟨c, hc, hname⟩ := (Option.any_eq_true _ _).1 h
  simpa [hc] using hname

theorem not_isQuote_of_isPlain {s : String} (h : isPlain s) {c : Char} (hc : c ∈ s.toList) :
    ¬ isQuote c := by
  have hdelimiter := List.all_eq_true.1 (Bool.and_eq_true_iff.1 h).1 c hc
  intro hq
  rcases Bool.or_eq_true_iff.1 hq with hq | hq <;> rw [eq_of_beq hq] at hdelimiter <;>
    exact absurd hdelimiter (by decide)

namespace Declares

variable {s t : String} {ds es : List (Bool × String)}

theorem lets_eq (h : Declares s ds) : lets s = ds := by
  simpa [lets, declarations] using h.declarations_append []

theorem append (hs : Declares s ds) (ht : Declares t es) (h : Apart s t) :
    Declares (s ++ t) (ds ++ es) := by
  refine ⟨?_, fun ws => ?_⟩
  · rw [String.toList_append, List.foldl_append, hs.closed, ht.closed]
  · have hwords : nameWords (blanked .code (s ++ t).toList) =
        nameWords (blanked .code s.toList) ++ nameWords (blanked .code t.toList) := by
      rw [String.toList_append, blanked_append, hs.closed]
      exact nameWords_append (h.blanked _ _)
    rw [hwords, List.append_assoc, hs.declarations_append, ht.declarations_append,
      List.append_assoc]

theorem nothing (hclosed : s.toList.foldl Place.next .code = .code)
    (hlet : "let".toList ∉ nameWords (blanked .code s.toList)) : Declares s [] := by
  refine ⟨hclosed, fun ws => ?_⟩
  generalize nameWords (blanked .code s.toList) = v at hlet
  induction v with
  | nil => rfl
  | cons w v ih =>
    obtain ⟨hw, hv⟩ := List.ne_and_not_mem_of_not_mem_cons hlet
    rw [List.cons_append, declarations, if_neg (Ne.symm hw), ih hv]

theorem of_isSilent (h : isSilent s) : Declares s [] := by
  obtain ⟨hclosed, hlet⟩ := Bool.and_eq_true_iff.1 h
  exact nothing (eq_of_beq hclosed) (by simpa using hlet)

theorem before (before : String) (hbefore : isOpening before) (ht : Declares t es) :
    Declares (before ++ t) es := by
  obtain ⟨hsilent, hlast⟩ := Bool.and_eq_true_iff.1 hbefore
  exact (of_isSilent hsilent).append ht (.inl (not_isNameChar_of_any hlast))

theorem after (hs : Declares s ds) (after : String) (hafter : isClosing after) :
    Declares (s ++ after) ds := by
  obtain ⟨hsilent, hfirst⟩ := Bool.and_eq_true_iff.1 hafter
  rw [← List.append_nil ds]
  exact hs.append (of_isSilent hsilent) (.inr (not_isNameChar_of_any hfirst))

theorem between (hs : Declares s ds) (sep : String) (hsep : isSeparator sep)
    (ht : Declares t es) : Declares (s ++ sep ++ t) (ds ++ es) := by
  obtain ⟨hclosing, hopening⟩ := Bool.and_eq_true_iff.1 hsep
  obtain ⟨c, hc, hname⟩ := (Option.any_eq_true _ _).1 (Bool.and_eq_true_iff.1 hopening).2
  refine (hs.after sep hclosing).append ht (.inl ?_)
  rw [String.toList_append, List.getLast?_append, hc]
  simpa using hname

theorem of_isPlain (h : isPlain s) : Declares s [] := by
  obtain ⟨hclosed, hcode⟩ := blanked_of_unquoted fun c hc => not_isQuote_of_isPlain h hc
  refine nothing hclosed ?_
  rw [hcode]
  have hwords := List.all_eq_true.1 (Bool.and_eq_true_iff.1 h).2
  exact fun hlet => absurd (hwords _ hlet) (by decide)

theorem of_notMem {c : Char} (hc : c ∈ "let".toList) (hs : c ∉ s.toList)
    (hquote : ∀ d ∈ s.toList, ¬ isQuote d) : Declares s [] := by
  obtain ⟨hclosed, hcode⟩ := blanked_of_unquoted hquote
  refine nothing hclosed ?_
  rw [hcode]
  exact fun hlet => hs (mem_of_mem_nameWords hlet hc)

theorem name {w : String} (hw : ∀ c ∈ w.toList, isNameChar c) (hmark : '_' ∈ w.toList) :
    Declares w [] := by
  obtain ⟨hclosed, hcode⟩ := blanked_of_unquoted fun c hc => not_isQuote_of_isNameChar (hw c hc)
  refine nothing hclosed ?_
  rw [hcode, nameWords_eq_singleton (List.ne_nil_of_mem hmark) hw, List.mem_singleton]
  exact fun h => absurd (h ▸ hmark) (by decide)

theorem definition {w : String} (hw : ∀ c ∈ w.toList, isNameChar c) (hmark : '_' ∈ w.toList)
    (mutable : Bool) : Declares ((if mutable then "let mut " else "let ") ++ w) [(mutable, w)] := by
  obtain ⟨hclosed, hcode⟩ := blanked_of_unquoted fun c hc => not_isQuote_of_isNameChar (hw c hc)
  have hnot (v : List Char) (hv : '_' ∉ v) : w.toList ≠ v := fun h => hv (h ▸ hmark)
  have hwords {keyword : String} (hblanked : blanked .code keyword.toList = keyword.toList)
      (hopen : keyword.toList.foldl Place.next .code = .code)
      (hlast : keyword.toList.getLast?.any (!isNameChar ·)) :
      nameWords (blanked .code (keyword ++ w).toList) = nameWords keyword.toList ++ [w.toList] := by
    rw [String.toList_append, blanked_append, hblanked, hopen, hcode,
      nameWords_append (.inl (not_isNameChar_of_any hlast)),
      nameWords_eq_singleton (List.ne_nil_of_mem hmark) hw]
  refine ⟨?_, fun ws => ?_⟩
  · cases mutable <;> simpa [List.foldl_append, Place.next, isQuote] using hclosed
  · cases mutable with
    | true =>
      have hkeywords : nameWords "let mut ".toList = ["let".toList, "mut".toList] := by decide
      rw [if_pos rfl, hwords (by decide) (by decide) (by decide), hkeywords]
      simp [declarations, declared, hnot]
    | false =>
      have hkeywords : nameWords "let ".toList = ["let".toList] := by decide
      rw [if_neg Bool.false_ne_true, hwords (by decide) (by decide) (by decide), hkeywords]
      simp [declarations, declared, hnot]

end Declares

def Inside (quote : Char) (s : List Char) : Prop :=
  s.foldl Place.next (.literal quote) = .literal quote ∧
    ∀ c ∈ blanked (.literal quote) s, ¬ isNameChar c

namespace Inside

variable {quote : Char} {s t : List Char}

theorem nil : Inside quote [] := ⟨rfl, by simp [blanked]⟩

theorem append (hs : Inside quote s) (ht : Inside quote t) : Inside quote (s ++ t) := by
  refine ⟨by rw [List.foldl_append, hs.1, ht.1], fun c hc => ?_⟩
  rw [blanked_append, hs.1] at hc
  exact (List.mem_append.1 hc).elim (hs.2 c) (ht.2 c)

theorem flatMap {α : Type} {f : α → List Char} (l : List α) (h : ∀ a ∈ l, Inside quote (f a)) :
    Inside quote (l.flatMap f) := by
  induction l with
  | nil => exact nil
  | cons a l ih =>
    obtain ⟨ha, hl⟩ := List.forall_mem_cons.1 h
    exact ha.append (ih hl)

theorem char {c : Char} (hquote : c ≠ quote) (hbackslash : c ≠ '\\') : Inside quote [c] := by
  simp [Inside, Place.next, hquote, hbackslash, blanked, Place.sees, isNameChar]

theorem chars (hs : ∀ c ∈ s, c ≠ quote ∧ c ≠ '\\') : Inside quote s := by
  rw [← List.flatMap_singleton' s]
  exact flatMap s fun c hc => char (hs c hc).1 (hs c hc).2

theorem escaped (hquote : quote ≠ '\\') (c : Char) : Inside quote ['\\', c] := by
  simp [Inside, Place.next, hquote.symm, blanked, Place.sees, isNameChar]

theorem isNameChar_of_mem_hexadecimal {n : Nat} {c : Char} (hc : c ∈ hexadecimal n) :
    isNameChar c := by
  have hdigit : ∀ k < 16, isNameChar k.digitChar := by decide
  unfold hexadecimal at hc
  induction n using Nat.strongRecOn with
  | ind n ih =>
    rcases Nat.lt_or_ge n 16 with hlt | hge
    · rw [Nat.toDigits_of_lt_base hlt, List.mem_singleton] at hc
      rw [hc]
      exact hdigit n hlt
    · rw [Nat.toDigits_of_base_le (by decide) hge] at hc
      rcases List.mem_append.1 hc with hc | hc
      · exact ih (n / 16) (by omega) hc
      · rw [List.mem_singleton.1 hc]
        exact hdigit _ (Nat.mod_lt n (by decide))

theorem escape (hq : isQuote quote) (c : Char) : Inside quote (escape quote c) := by
  have hquote : ∀ d, ¬ isQuote d → d ≠ quote := fun d hd h => hd (h ▸ hq)
  have hbackslash : quote ≠ '\\' := (hquote '\\' (by decide)).symm
  unfold Text.escape
  split
  · exact escaped hbackslash _
  split
  · exact escaped hbackslash _
  split
  · exact escaped hbackslash _
  split
  · exact escaped hbackslash _
  split
  · exact escaped hbackslash _
  · rename_i hplain
    obtain ⟨hback, hclose⟩ : c ≠ '\\' ∧ c ≠ quote := by simpa using hplain
    split
    · exact char hclose hback
    · have hdigits : Inside quote (hexadecimal c.toNat) := chars fun d hd => by
        have hname := isNameChar_of_mem_hexadecimal hd
        refine ⟨hquote d (not_isQuote_of_isNameChar hname), ?_⟩
        rintro rfl
        exact absurd hname (by decide)
      have hopen : Inside quote ['\\', 'u', '\x7b'] :=
        (escaped hbackslash 'u').append (char (hquote _ (by decide)) (by decide))
      exact (hopen.append hdigits).append (char (hquote _ (by decide)) (by decide))

end Inside

theorem Declares.literal {quote : Char} (hq : isQuote quote) (s : List Char) :
    Declares (String.ofList (quote :: s.flatMap (escape quote) ++ [quote])) [] := by
  obtain ⟨hinside, hblank⟩ := Inside.flatMap s fun c _ => Inside.escape hq c
  have hopen : Place.next .code quote = .literal quote := if_pos hq
  have hclose : Place.next (.literal quote) quote = .code := if_pos rfl
  refine nothing ?_ ?_
  · rw [String.toList_ofList, List.cons_append, List.foldl_cons, hopen, List.foldl_append, hinside]
    exact hclose
  · rw [String.toList_ofList, List.cons_append, blanked, hopen, blanked_append, hinside,
      nameWords_eq_nil]
    · exact List.not_mem_nil
    · simpa [blanked, Place.sees, hopen, hclose, isNameChar, or_imp, forall_and] using hblank

end UnitTestGen.Text
