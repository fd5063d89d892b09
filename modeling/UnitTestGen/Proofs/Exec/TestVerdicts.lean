import UnitTestGen.Exec.Report
import UnitTestGen.Proofs.Text.Words
import UnitTestGen.Proofs.Trace.Lines
import UnitTestGen.TestCase.Render

/-! The ids of failed tests against the names that test functions are given. A line is read as a
failure by its four words alone, so what ends it does not matter; the last underscore of the name
stands before the id, whatever the path in front of it holds; and a line that begins or ends
otherwise has other words. -/

namespace UnitTestGen

open Text

inductive Verdict where
  | ok
  | failed
  | ignored

def Verdict.word : Verdict → List Char
  | ok => ['o', 'k']
  | failed => ['F', 'A', 'I', 'L', 'E', 'D']
  | ignored => ['i', 'g', 'n', 'o', 'r', 'e', 'd']

inductive LineEnd where
  | feed
  | returnFeed

def LineEnd.text : LineEnd → List Char
  | feed => ['\n']
  | returnFeed => ['\r', '\n']

inductive TestLine where
  | verdict (path : List Char) (id : UInt64) (v : Verdict)
  | other (text : List Char)

namespace TestLine

def name (path : List Char) (id : UInt64) : List Char :=
  path ++ [':', ':'] ++ (testFunctionName id).toList

def text : TestLine → List Char
  | verdict path id v =>
    ['t', 'e', 's', 't'] ++ ' ' :: (name path id ++ ' ' :: (['.', '.', '.'] ++ ' ' :: v.word))
  | other text => text

def BeginsAsVerdict (s : List Char) : Prop :=
  ['t', 'e', 's', 't'] <+: s ∧ (s.drop 4).head?.any isBlank

def EndsAsFailure (s : List Char) : Prop := Verdict.failed.word <:+ trimEnd s

/-- A path has no blanks, and any other line is one line that does not begin as a verdict does or
does not end as a failure does. -/
def Proper : TestLine → Prop
  | verdict path _ _ => ∀ c ∈ path, isBlank c = false
  | other text => '\n' ∉ text ∧ (¬ BeginsAsVerdict text ∨ ¬ EndsAsFailure text)

instance : DecidablePred BeginsAsVerdict := fun _ => inferInstanceAs (Decidable (_ ∧ _))

instance : DecidablePred EndsAsFailure := fun _ => inferInstanceAs (Decidable (_ <:+ _))

instance : DecidablePred Proper
  | verdict _ _ _ => decidable_of_iff _ any_isBlank_eq_false_iff
  | other _ => inferInstanceAs (Decidable (_ ∧ (_ ∨ _)))

def failed? : TestLine → Option UInt64
  | verdict _ id .failed => some id
  | verdict _ _ _ => none
  | other _ => none

end TestLine

/-- Lines one after the other, the last one without an end. -/
def runText : List (TestLine × LineEnd) → TestLine → List Char
  | [], last => last.text
  | (l, e) :: ls, last => l.text ++ (e.text ++ runText ls last)

theorem failedTest_eq_some_iff {l : List Char} {id : UInt64} :
    failedTest l = some id ↔ l.head? = some 't' ∧ ∃ name,
      words l = [['t', 'e', 's', 't'], name, ['.', '.', '.'], Verdict.failed.word] ∧
        trailingId name = some id := by
  unfold failedTest
  split
  · rename_i hwords
    simp [hwords, Verdict.word]
  · rename_i hother
    constructor
    · intro h
      cases h
    · rintro ⟨hhead, name, hwords, -⟩
      obtain ⟨s, hs⟩ := List.head?_eq_some_iff.1 hhead
      exact absurd hwords (hother s name hs)

theorem failedTest_append_blanks {b : List Char} (hb : ∀ c ∈ b, isBlank c) (l : List Char) :
    failedTest (l ++ b) = failedTest l := by
  ext id
  rw [failedTest_eq_some_iff, failedTest_eq_some_iff, words_append_blanks hb]
  cases l with
  | nil => simp [words]
  | cons c l => rfl

theorem blank_return : ∀ c ∈ ['\r'], isBlank c := List.all_eq_true.1 rfl

theorem failedTest_chomp (l : List Char) : failedTest (chomp l) = failedTest l := by
  rcases chomp_eq_or l with hl | hl
  · rw [hl]
  · have hblank := failedTest_append_blanks blank_return (chomp l)
    rw [hl] at hblank
    exact hblank.symm

theorem filterMap_failedTest_lines {l : List Char} (hl : '\n' ∉ l) :
    (lines l).filterMap failedTest = (failedTest l).toList := by
  by_cases hne : l = []
  · subst hne
    rfl
  · rw [lines_of_notMem hne hl]
    cases h : failedTest l <;> simp [h]

theorem filterMap_failedTest_append {l : List Char} (hl : '\n' ∉ l) (e : LineEnd) (s : List Char) :
    (lines (l ++ (e.text ++ s))).filterMap failedTest =
      (failedTest l).toList ++ (lines s).filterMap failedTest := by
  have key : ∃ l', lines (l ++ (e.text ++ s)) = l' :: lines s ∧ failedTest l' = failedTest l := by
    cases e with
    | feed => exact ⟨chomp l, lines_append_newline hl s, failedTest_chomp l⟩
    | returnFeed =>
      have hl' : '\n' ∉ l ++ ['\r'] := by simpa using hl
      have hlines := lines_append_newline hl' s
      rw [List.append_assoc] at hlines
      refine ⟨chomp (l ++ ['\r']), hlines, ?_⟩
      rw [failedTest_chomp, failedTest_append_blanks blank_return]
  obtain ⟨l', hlines, hl'⟩ := key
  rw [hlines, List.filterMap_cons, hl']
  cases failedTest l <;> rfl

namespace TestLine

theorem name_eq (path : List Char) (id : UInt64) :
    name path id = path ++ "::case".toList ++ '_' :: decimal id.toNat := by
  simp [name, testFunctionName, decimal]

theorem solid_name {path : List Char} (hpath : ∀ c ∈ path, isBlank c = false) (id : UInt64) :
    ∀ c ∈ name path id, isBlank c = false := by
  intro c hc
  rw [name_eq] at hc
  rcases List.mem_append.1 hc with hc | hc
  · rcases List.mem_append.1 hc with hc | hc
    · exact hpath c hc
    · exact any_isBlank_eq_false_iff.1 (by decide) c hc
  · rcases List.mem_cons.1 hc with rfl | hc
    · decide
    · exact isBlank_of_mem_decimal hc

theorem trailingId_name (path : List Char) (id : UInt64) : trailingId (name path id) = some id := by
  have hdigits : '_' ∉ decimal id.toNat := fun h => absurd (isDigit_of_mem_decimal h) (by decide)
  have hread : readDigits (decimal id.toNat) = some id.toNat := by
    rw [readDigits_eq_some (decimal_ne_nil _) fun _ => isDigit_of_mem_decimal, digitsValue_decimal]
  unfold trailingId
  rw [name_eq, cutLast_singleton hdigits]
  simp [hread, id.toNat_lt_size]

theorem solid_word (v : Verdict) : v.word ≠ [] ∧ ∀ c ∈ v.word, isBlank c = false := by
  cases v <;> exact ⟨List.cons_ne_nil _ _, any_isBlank_eq_false_iff.1 rfl⟩

theorem words_verdict {path : List Char} (hpath : ∀ c ∈ path, isBlank c = false) (id : UInt64)
    (v : Verdict) : words (verdict path id v).text =
      [['t', 'e', 's', 't'], name path id, ['.', '.', '.'], v.word] := by
  have hname : name path id ≠ [] := by simp [name_eq]
  have htest : ∀ c ∈ ['t', 'e', 's', 't'], isBlank c = false := any_isBlank_eq_false_iff.1 rfl
  have hdots : ∀ c ∈ ['.', '.', '.'], isBlank c = false := any_isBlank_eq_false_iff.1 rfl
  have hlast := words_append (solid_word v).2 (solid_word v).1 (s := []) rfl
  rw [List.append_nil] at hlast
  rw [text, words_append htest (List.cons_ne_nil _ _) rfl, words_blank _ rfl,
    words_append (solid_name hpath id) hname rfl, words_blank _ rfl,
    words_append hdots (List.cons_ne_nil _ _) rfl, words_blank _ rfl, hlast]
  rfl

theorem newline_notMem_text {l : TestLine} (hl : l.Proper) : '\n' ∉ l.text := by
  cases l with
  | other text => exact hl.1
  | verdict path id v =>
    have hsolid {s : List Char} (hs : ∀ c ∈ s, isBlank c = false) : '\n' ∉ s :=
      fun h => absurd (hs _ h) (by decide)
    have hname := hsolid (solid_name hl id)
    have hword := hsolid (solid_word v).2
    simp [text, hname, hword]

theorem beginsAsVerdict_of_failedTest {l : List Char} {id : UInt64} (h : failedTest l = some id) :
    BeginsAsVerdict l := by
  obtain ⟨hhead, name, hwords, -⟩ := failedTest_eq_some_iff.1 h
  obtain ⟨b, r, hl, hb, -, -, hr, hrest⟩ := exists_of_words_eq_cons hwords
  have hnil : b = [] := by
    cases b with
    | nil => rfl
    | cons c b =>
      rw [hl] at hhead
      cases hhead
      exact absurd (hb _ List.mem_cons_self) (by decide)
  -- there are words to come, so something blank follows the first one
  cases r with
  | nil => cases hrest
  | cons c r =>
    subst hnil hl
    exact ⟨⟨c :: r, rfl⟩, hr⟩

theorem endsAsFailure_of_failedTest {l : List Char} {id : UInt64} (h : failedTest l = some id) :
    EndsAsFailure l := by
  obtain ⟨-, name, hwords, -⟩ := failedTest_eq_some_iff.1 h
  have hlast : words l =
      [['t', 'e', 's', 't'], name, ['.', '.', '.']] ++ [Verdict.failed.word] := hwords
  exact suffix_trimEnd_of_words hlast

theorem failedTest_text {l : TestLine} (hl : l.Proper) : failedTest l.text = l.failed? := by
  cases l with
  | verdict path id v =>
    have hwords := words_verdict hl id v
    cases v with
    | failed => exact failedTest_eq_some_iff.2 ⟨rfl, _, hwords, trailingId_name path id⟩
    | _ =>
      refine Option.eq_none_iff_forall_ne_some.2 fun id' h => ?_
      obtain ⟨-, name, hfailed, -⟩ := failedTest_eq_some_iff.1 h
      rw [hwords] at hfailed
      cases hfailed
  | other text =>
    refine Option.eq_none_iff_forall_ne_some.2 fun id h => ?_
    rcases hl.2 with hbegins | hends
    · exact hbegins (beginsAsVerdict_of_failedTest h)
    · exact hends (endsAsFailure_of_failedTest h)

end TestLine

/-- Of an output whose lines are verdicts on named test functions, or cannot be taken for a failure,
the ids of the failures are read, in order and as often as they are there. -/
theorem failedTests_runText (ls : List (TestLine × LineEnd)) (last : TestLine)
    (hls : ∀ l ∈ ls, l.1.Proper) (hlast : last.Proper) :
    failedTests (String.ofList (runText ls last)) =
      (ls.map Prod.fst ++ [last]).filterMap TestLine.failed? := by
  rw [failedTests, String.toList_ofList]
  induction ls with
  | nil =>
    rw [runText, filterMap_failedTest_lines (TestLine.newline_notMem_text hlast),
      TestLine.failedTest_text hlast]
    cases h : last.failed? <;> simp [h]
  | cons l ls ih =>
    have hl : l.1.Proper := hls l List.mem_cons_self
    rw [runText, filterMap_failedTest_append (TestLine.newline_notMem_text hl),
      TestLine.failedTest_text hl, ih fun l' h => hls l' (List.mem_cons_of_mem l h)]
    cases h : l.1.failed? <;> simp [h]

def mixedRun : List (TestLine × LineEnd) :=
  [(.other "running 4 tests".toList, .feed),
    (.verdict "rusty_tests".toList 3 .ok, .feed),
    (.verdict "rusty_tests::case_9".toList 12 .failed, .returnFeed),
    (.other " test rusty_tests::case_5 ... FAILED".toList, .feed),
    (.verdict "_8".toList 12 .failed, .feed),
    (.verdict [] 4 .ignored, .returnFeed),
    (.other "test result: FAILED. 1 passed; 2 failed".toList, .feed)]

def longestId : TestLine := .verdict "rusty_tests_7".toList 18446744073709551615 .failed

theorem failedTests_mixedRun :
    (∀ l ∈ mixedRun, l.1.Proper) ∧ longestId.Proper ∧
      failedTests (String.ofList (runText mixedRun longestId)) =
        [12, 12, 18446744073709551615] := by
  have hls : ∀ l ∈ mixedRun, l.1.Proper := by decide
  have hlast : longestId.Proper := by decide
  exact ⟨hls, hlast, failedTests_runText mixedRun longestId hls hlast⟩

end UnitTestGen
