import Mathlib.Data.List.Basic
import UnitTestGen.Proofs.TestCase.PrintedLets
import UnitTestGen.Proofs.Ty.Parts

/-! Variable names that source code accepts. If the names in a type are words of letters, digits and
underscores, the stem is such a word without capitals: a capital becomes its small letter, behind an
underscore unless it comes first, and every other character is kept. What is put around a stem for
arrays, slices, references and trait objects keeps it one. The number at the end of a variable's
name tells the name from all keywords, which have no digits. -/

namespace UnitTestGen

namespace Text

def isWordChar (c : Char) : Bool := c.isAlphanum || c == '_'

def isWord : List Char → Bool
  | [] => false
  | c :: s => (c.isAlpha || c == '_') && s.all isWordChar

def isSmallChar (c : Char) : Bool := c.isLower || c.isDigit || c == '_'

def isSmallWord : List Char → Bool
  | [] => false
  | c :: s => (c.isLower || c == '_') && s.all isSmallChar

def isIdentifier (name : String) : Bool := isWord name.toList && name != "_"

def keywords : List String :=
  ["as", "async", "await", "break", "const", "continue", "crate", "dyn", "else", "enum", "extern",
    "false", "fn", "for", "if", "impl", "in", "let", "loop", "match", "mod", "move", "mut", "pub",
    "ref", "return", "self", "Self", "static", "struct", "super", "trait", "true", "type", "unsafe",
    "use", "where", "while", "abstract", "become", "box", "do", "final", "gen", "macro", "override",
    "priv", "try", "typeof", "unsized", "virtual", "yield", "macro_rules", "raw", "safe", "union"]

theorem not_isDigit_of_keyword {w : String} (hw : w ∈ keywords) {c : Char} (hc : c ∈ w.toList) :
    ¬ c.isDigit := by
  have hall : (keywords.all fun w => w.toList.all (!·.isDigit)) = true := by decide
  simpa using List.all_eq_true.1 (List.all_eq_true.1 hall w hw) c hc

theorem isAlpha_iff {c : Char} : c.isAlpha ↔ c.isUpper ∨ c.isLower := Bool.or_eq_true_iff

theorem lt_of_isWordChar {c : Char} (h : isWordChar c) : c.toNat < 128 := by
  rcases Bool.or_eq_true_iff.1 h with h | h
  · rcases Bool.or_eq_true_iff.1 h with h | h
    · rcases isAlpha_iff.1 h with h | h
      · have hrange : 65 ≤ c.toNat ∧ c.toNat ≤ 90 := of_decide_eq_true h
        omega
      · have hrange : c.toNat ≤ 122 := of_decide_eq_true (Bool.and_eq_true_iff.1 h).2
        omega
    · have hrange : c.toNat ≤ 57 := of_decide_eq_true (Bool.and_eq_true_iff.1 h).2
      omega
  · rw [eq_of_beq h]
    decide

theorem toLower_of_isUpper {c : Char} (h : c.isUpper) :
    c.toLower = Char.ofNat (c.toNat + 32) ∧ c.toLower.isLower := by
  have hcodes : ∀ n < 91, 65 ≤ n → (Char.ofNat n).toLower = Char.ofNat (n + 32) ∧
      (Char.ofNat n).toLower.isLower := by decide
  have hrange : 65 ≤ c.toNat ∧ c.toNat ≤ 90 := of_decide_eq_true h
  have hc := hcodes c.toNat (Nat.lt_succ_of_le hrange.2) hrange.1
  rwa [Char.ofNat_toNat] at hc

theorem toLower_of_not_isUpper {c : Char} (h : ¬ c.isUpper) : c.toLower = c :=
  dif_neg fun hrange => h (decide_eq_true hrange)

theorem isLower_toLower {c : Char} (h : c.isAlpha) : c.toLower.isLower := by
  by_cases hu : c.isUpper
  · exact (toLower_of_isUpper hu).2
  · rw [toLower_of_not_isUpper hu]
    exact (isAlpha_iff.1 h).resolve_left hu

theorem isSmallChar_toLower {c : Char} (h : isWordChar c) : isSmallChar c.toLower := by
  by_cases ha : c.isAlpha
  · simp [isSmallChar, isLower_toLower ha]
  · have hu : ¬ c.isUpper := fun hu => ha (isAlpha_iff.2 (.inl hu))
    rw [toLower_of_not_isUpper hu]
    simp only [isWordChar, isSmallChar, Char.isAlphanum, Bool.or_eq_true] at h ⊢
    tauto

theorem isSmallWord_append {s t : List Char} (hs : isSmallWord s) (ht : t.all isSmallChar) :
    isSmallWord (s ++ t) := by
  cases s with
  | nil => cases hs
  | cons c s =>
    obtain ⟨hc, hs⟩ := Bool.and_eq_true_iff.1 hs
    simp [isSmallWord, hc, hs, ht]

theorem all_of_isSmallWord {s : List Char} (h : isSmallWord s) : s.all isSmallChar := by
  cases s with
  | nil => rfl
  | cons c s =>
    obtain ⟨hc, hs⟩ := Bool.and_eq_true_iff.1 h
    rcases Bool.or_eq_true_iff.1 hc with hc | hc <;> simp [isSmallChar, hc, hs]

theorem isWord_of_isSmallWord {s : List Char} (h : isSmallWord s) : isWord s := by
  have hchar {c : Char} (hc : isSmallChar c) : isWordChar c := by
    simp only [isSmallChar, isWordChar, Char.isAlphanum, isAlpha_iff, Bool.or_eq_true] at hc ⊢
    tauto
  cases s with
  | nil => cases h
  | cons c s =>
    obtain ⟨hc, hs⟩ := Bool.and_eq_true_iff.1 h
    have hstart : (c.isAlpha || c == '_') = true := by
      rcases Bool.or_eq_true_iff.1 hc with hc | hc <;> simp [isAlpha_iff, hc]
    have hrest : s.all isWordChar := by
      rw [List.all_eq_true] at hs ⊢
      exact fun d hd => hchar (hs d hd)
    exact Bool.and_eq_true_iff.2 ⟨hstart, hrest⟩

end Text

namespace Ty

open Text

theorem snakeChar_of_isWordChar {c : Char} (h : isWordChar c) (atStart : Bool) :
    snakeChar atStart c = (if c.isUpper && !atStart then ['_'] else []) ++ [c.toLower] := by
  have hlt : c.toNat < 128 := lt_of_isWordChar h
  unfold snakeChar
  rw [isUppercase_of_ascii hlt, isAlphanumeric_of_ascii hlt]
  by_cases hu : c.isUpper
  · rw [lowercase_of_ascii hlt hu, ← (toLower_of_isUpper hu).1]
    cases atStart <;> simp [hu]
  · rw [toLower_of_not_isUpper hu]
    by_cases ha : c.isAlphanum
    · simp [hu, ha]
    · have hunder : c = '_' := by simpa [isWordChar, ha] using h
      simp [hunder]

theorem isSmallWord_snakeCase {s : List Char} (h : isWord s) : isSmallWord (snakeCase s) := by
  cases s with
  | nil => cases h
  | cons c s =>
    obtain ⟨hc, hs⟩ := Bool.and_eq_true_iff.1 h
    have hword : isWordChar c := by
      simp only [isWordChar, Char.isAlphanum, Bool.or_eq_true] at hc ⊢
      tauto
    have hstart : snakeChar true c = [c.toLower] := by simp [snakeChar_of_isWordChar hword]
    have hrest : (s.flatMap (snakeChar false)).all isSmallChar := by
      rw [List.all_flatMap, List.all_eq_true]
      intro d hd
      have hd : isWordChar d := List.all_eq_true.1 hs d hd
      rw [snakeChar_of_isWordChar hd, List.all_append, Bool.and_eq_true]
      refine ⟨?_, by simpa using isSmallChar_toLower hd⟩
      cases d.isUpper <;> decide
    have hsmall : isSmallWord [c.toLower] := by
      rcases Bool.or_eq_true_iff.1 hc with hc | hc
      · simp [isSmallWord, isLower_toLower hc]
      · rw [eq_of_beq hc]
        decide
    rw [snakeCase, hstart]
    exact isSmallWord_append hsmall hrest

/-- The name of a struct, an enum or a trait object ends in a word, and the name of a generic
parameter is one. -/
def hasWordName : Ty → Bool
  | adt _ n _ _ | traitObj n _ => isWord (lastSegment n)
  | generic n _ => isWord n.toList
  | prim _ | tuple _ | array _ _ | slice _ | ref _ _ | fn _ _ => true

theorem isSmallWord_varPrefix {t : Ty} (h : ∀ u ∈ t.nodes, u.hasWordName) :
    isSmallWord t.varPrefix := by
  have hself {u : Ty} (hu : ∀ w ∈ u.nodes, w.hasWordName) : u.hasWordName := hu u u.self_mem_nodes
  have hpart {u p : Ty} (hp : p ∈ u.parts) (hu : ∀ w ∈ u.nodes, w.hasWordName) :
      ∀ w ∈ p.nodes, w.hasWordName := fun w hw => hu w (nodes_subset hp hw)
  induction t using Ty.induction with
  | prim p => cases p <;> decide
  | adt k n gs tr _ => exact isSmallWord_snakeCase (hself h)
  | tuple ts _ => cases ts <;> rfl
  | array t n ih => exact isSmallWord_append (ih (hpart (.head _) h)) (by decide)
  | slice t ih => exact isSmallWord_append (ih (hpart (.head _) h)) (by decide)
  | ref t m ih => exact isSmallWord_append (ih (hpart (.head _) h)) (by decide)
  | generic n b => exact isSmallWord_snakeCase (hself h)
  | traitObj n b =>
    exact isSmallWord_append (by decide) (all_of_isSmallWord (isSmallWord_snakeCase (hself h)))
  | fn ps r _ _ => rfl

end Ty

namespace Var

open Text

theorem isIdentifier_name {v : Var} (h : isSmallWord v.ty.varPrefix) : isIdentifier v.name := by
  have hend : ('_' :: decimal v.id).all isSmallChar := by
    rw [List.all_eq_true]
    intro c hc
    rcases List.mem_cons.1 hc with rfl | hc
    · decide
    · simp [isSmallChar, isDigit_of_mem_decimal hc]
  have hword : isWord v.name.toList := by
    rw [toList_name]
    exact isWord_of_isSmallWord (isSmallWord_append h hend)
  have hlong : v.name ≠ "_" := by
    intro hname
    have hlen : v.name.toList.length = 1 := by rw [hname]; rfl
    have hstem : v.ty.varPrefix ≠ [] := by
      intro hnil
      rw [hnil] at h
      cases h
    have hpos : 0 < v.ty.varPrefix.length := List.length_pos_iff.2 hstem
    rw [toList_name, List.length_append, List.length_cons] at hlen
    omega
  exact Bool.and_eq_true_iff.2 ⟨hword, bne_iff_ne.2 hlong⟩

theorem name_notMem_keywords (v : Var) : v.name ∉ keywords := by
  intro hmem
  obtain ⟨c, hc⟩ := List.exists_mem_of_ne_nil _ (decimal_ne_nil v.id)
  have hname : c ∈ v.name.toList := by
    rw [toList_name]
    exact List.mem_append_right _ (.tail _ hc)
  exact not_isDigit_of_keyword hmem hname (isDigit_of_mem_decimal hc)

end Var

namespace Ty

open Text

/-- If all names in a type are words, the stem for it is a word without capitals, and every variable
of the type has a name that source code accepts. -/
theorem legal_names {t : Ty} (h : ∀ u ∈ t.nodes, u.hasWordName) :
    t.varPrefix ≠ [] ∧ (∀ c ∈ t.varPrefix.head?, c.isLower ∨ c = '_') ∧
      (∀ c ∈ t.varPrefix, c.isLower ∨ c.isDigit ∨ c = '_') ∧
      ∀ id, isIdentifier (Var.name ⟨id, t⟩) ∧ Var.name ⟨id, t⟩ ∉ keywords := by
  have hsmall : isSmallWord t.varPrefix := isSmallWord_varPrefix h
  have hall : ∀ c ∈ t.varPrefix, c.isLower ∨ c.isDigit ∨ c = '_' := by
    intro c hc
    have hchar : isSmallChar c := List.all_eq_true.1 (all_of_isSmallWord hsmall) c hc
    simpa [isSmallChar, or_assoc] using hchar
  refine ⟨?_, ?_, hall, fun id => ⟨Var.isIdentifier_name hsmall, Var.name_notMem_keywords _⟩⟩
  · intro hnil
    rw [hnil] at hsmall
    cases hsmall
  · intro c hc
    obtain ⟨s, hs⟩ := List.head?_eq_some_iff.1 hc
    rw [hs] at hsmall
    simpa using (Bool.and_eq_true_iff.1 hsmall).1

def caches : Ty :=
  .ref (.array (.adt .struct "crate::lru::LRUCache_2"
    [.generic "K1" ∅, .slice (.traitObj "std::fmt::Debug" ∅)] ∅) 8) true

theorem caches_legal : (∀ u ∈ caches.nodes, u.hasWordName) ∧ caches.varPrefix ≠ [] ∧
    (∀ c ∈ caches.varPrefix.head?, c.isLower ∨ c = '_') ∧
    (∀ c ∈ caches.varPrefix, c.isLower ∨ c.isDigit ∨ c = '_') ∧
    ∀ id, isIdentifier (Var.name ⟨id, caches⟩) ∧ Var.name ⟨id, caches⟩ ∉ keywords := by
  have h : ∀ u ∈ caches.nodes, u.hasWordName := by decide
  exact ⟨h, legal_names h⟩

example : Var.name ⟨3, caches⟩ = "l_r_u_cache_2_array_ref_3" := by decide +kernel

end Ty
end UnitTestGen
