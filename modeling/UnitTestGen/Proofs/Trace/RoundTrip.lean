import UnitTestGen.Proofs.Binary64.RoundTrip
import UnitTestGen.Proofs.Trace.Grammar

/-! A fact is read back from its line, whatever the identity of its function is. Nothing that is
written behind the identity has a dollar sign and the test id in front of it has none either, so the
first and the last dollar sign of the line are the two that were written around it. -/

namespace UnitTestGen

namespace Binary64

theorem not_isNaN_of_isDistance {d : Binary64} (h : TraceFact.isDistance d) : ¬ d.isNaN := by
  have hfin : d.isFinite := (Bool.and_eq_true_iff.1 h).1
  rw [isNaN_of_isFinite hfin]
  exact Bool.false_ne_true

theorem numEq_iff {d e : Binary64} (hd : ¬ d.isNaN) (he : ¬ e.isNaN) :
    d.numEq e ↔ d.rank = e.rank := by
  simp [numEq, hd, he]

end Binary64

namespace TraceFact

open Text

theorem isDistance_of_ofLine {l : String} {f : TraceFact} (h : ofLine l = .ok (some f)) :
    isDistance f.distance := by
  obtain ⟨_, _, hform⟩ := ofLine_eq_ok_some_iff.1 h
  exact hform.isDistance

def inner (f : TraceFact) : List Char :=
  decimal f.block.blockId.toNat ++ ' ' :: (f.distance.text .plain).toList

def body (f : TraceFact) : List Char :=
  if f.block.blockId = 0 ∧ f.distance.numEq .zero then ['r', 'o', 'o', 't']
  else ['b', 'r', 'a', 'n', 'c', 'h'] ++ '[' :: (f.inner ++ [']'])

theorem toList_line (f : TraceFact) :
    f.line.toList = decimal f.testId.toNat ++
      ' ' :: '$' :: (f.block.globalId.toList ++ '$' :: ' ' :: f.body) := by
  unfold line body inner
  split <;> simp [decimal]

theorem mem_inner {f : TraceFact} {c : Char} (hc : c ∈ f.inner) :
    c.isDigit ∨ c = ' ' ∨ c ∈ Binary64.marks := by
  rcases List.mem_append.1 hc with hc | hc
  · exact .inl (isDigit_of_mem_decimal hc)
  rcases List.mem_cons.1 hc with hc | hc
  · exact .inr (.inl hc)
  · exact (Binary64.mem_text_plain hc).imp_right .inr

theorem dollar_notMem_body (f : TraceFact) : '$' ∉ f.body := by
  unfold body
  split
  · decide
  · intro h
    have hinner : '$' ∈ f.inner := by simpa using h
    exact absurd (mem_inner hinner) (by decide)

theorem body_ends (f : TraceFact) :
    ∃ first mid last, f.body = first :: (mid ++ [last]) ∧
      isBlank first = false ∧ isBlank last = false := by
  unfold body
  split
  · exact ⟨'r', ['o', 'o'], 't', rfl, by decide, by decide⟩
  · exact ⟨'b', ['r', 'a', 'n', 'c', 'h', '['] ++ f.inner, ']', by simp, by decide, by decide⟩

theorem trim_body (f : TraceFact) : trim f.body = f.body := by
  obtain ⟨first, mid, last, hbody, hfirst, hlast⟩ := f.body_ends
  rw [hbody]
  apply trim_eq_self
  · simpa using hfirst
  · simpa [List.getLast?_cons, List.getLast?_append] using hlast

theorem trim_line (f : TraceFact) : trim f.line.toList = f.line.toList := by
  obtain ⟨first, mid, last, hbody, _, hlast⟩ := f.body_ends
  apply trim_eq_self
  · intro c hc
    rw [toList_line, List.head?_append_of_ne_nil _ (decimal_ne_nil _)] at hc
    exact isBlank_of_mem_decimal (List.mem_of_head? hc)
  · intro c hc
    have hend : f.line.toList = (decimal f.testId.toNat ++
        ' ' :: '$' :: (f.block.globalId.toList ++ '$' :: ' ' :: first :: mid)) ++ [last] := by
      rw [toList_line, hbody]
      simp
    rw [hend, List.getLast?_concat] at hc
    exact Option.some.inj hc ▸ hlast

theorem readTestId_line (f : TraceFact) :
    (words f.line.toList).head?.bind readUInt64 = some f.testId := by
  rw [toList_line, words_append (fun _ => isBlank_of_mem_decimal) (decimal_ne_nil _) rfl]
  exact readUInt64_decimal f.testId

theorem dollarParts_line (f : TraceFact) :
    dollarParts f.line.toList = some (f.block.globalId.toList, ' ' :: f.body) := by
  have hid : '$' ∉ decimal f.testId.toNat ++ [' '] := by
    intro h
    rcases List.mem_append.1 h with h | h
    · exact absurd (isDigit_of_mem_decimal h) (by decide)
    · exact absurd h (by decide)
  have hrest : '$' ∉ ' ' :: f.body := by
    simpa using f.dollar_notMem_body
  exact dollarParts_eq_some_iff.2 ⟨_, by simp [toList_line], hid, hrest⟩

theorem readPayload_inner {f : TraceFact} (hf : isDistance f.distance) :
    readPayload ('[' :: (f.inner ++ [']'])) = some (f.block.blockId, f.distance) := by
  have hfin : f.distance.isFinite := (Bool.and_eq_true_iff.1 hf).1
  have hread := Binary64.read_text_plain hfin
  have hdistance : ∀ c ∈ (f.distance.text .plain).toList, isBlank c = false := by
    intro c hc
    rcases Binary64.mem_text_plain hc with hc | hc
    · exact isBlank_of_isDigit hc
    · have hmarks : Binary64.marks.any isBlank = false := by decide
      simpa using List.any_eq_false.1 hmarks c hc
  have hne : (f.distance.text .plain).toList ≠ [] := by
    intro h
    rw [h] at hread
    cases hread
  have hwords : words f.inner =
      [decimal f.block.blockId.toNat, (f.distance.text .plain).toList] := by
    have hlast := words_append hdistance hne (s := []) rfl
    rw [List.append_nil] at hlast
    rw [inner, words_append (fun _ => isBlank_of_mem_decimal) (decimal_ne_nil _) rfl,
      words_blank _ (by decide), hlast]
    rfl
  exact readPayload_eq_some_iff.2
    ⟨f.inner, _, _, rfl, hwords, readUInt64_decimal f.block.blockId, hread, hf⟩

/-- The fact that its line stands for: at the entry of a function the zero is the positive one. -/
def canonical (f : TraceFact) : TraceFact :=
  if f.block.blockId = 0 ∧ f.distance.numEq .zero then { f with distance := .zero } else f

theorem kindAndPayload_branch (payload : List Char) :
    kindAndPayload (['b', 'r', 'a', 'n', 'c', 'h'] ++ '[' :: payload) =
      (['b', 'r', 'a', 'n', 'c', 'h'], '[' :: payload) := rfl

theorem ofLine_line {f : TraceFact} (hf : isDistance f.distance) :
    ofLine f.line = .ok (some f.canonical) := by
  have hrest : trim (' ' :: f.body) = f.body := by
    rw [trim_blank (by decide), trim_body]
  have hkind : ['b', 'r', 'a', 'n', 'c', 'h'] ≠ ['r', 'o', 'o', 't'] := by decide
  unfold ofLine
  rw [trim_line]
  simp only [readTestId_line, dollarParts_line, hrest, String.ofList_toList]
  unfold body canonical
  split
  · rename_i hroot
    rw [← hroot.1]
    rfl
  · simp only [kindAndPayload_branch, if_neg hkind, readPayload_inner hf, if_true]

theorem canonical_agrees {f : TraceFact} (hf : isDistance f.distance) : f.canonical.agrees f := by
  have hnan := Binary64.not_isNaN_of_isDistance hf
  have hsame : f.distance.numEq f.distance := (Binary64.numEq_iff hnan hnan).2 rfl
  unfold canonical
  split
  · rename_i hroot
    have hzero : Binary64.zero.numEq f.distance := by
      rw [Binary64.numEq_iff (by decide) hnan]
      exact ((Binary64.numEq_iff hnan (by decide)).1 hroot.2).symm
    simp [agrees, hzero]
  · simp [agrees, hsame]

theorem line_canonical (f : TraceFact) : f.canonical.line = f.line := by
  unfold canonical
  split
  · rename_i hroot
    have hzero : Binary64.zero.numEq .zero := by decide
    unfold line
    rw [if_pos hroot, if_pos ⟨hroot.1, hzero⟩]
  · rfl

/-- A fact with a finite distance that is not negative is read back from its line, the distance as a
number, and so is every fact that some line reads as; the line of what is read is the line again. -/
theorem ofLine_inverse :
    (∀ f : TraceFact, f.distance.isFinite → ¬ f.distance.lt .zero →
      ∃ g, ofLine f.line = .ok (some g) ∧ g.agrees f ∧ g.line = f.line) ∧
    ∀ l f, ofLine l = .ok (some f) →
      ∃ g, ofLine f.line = .ok (some g) ∧ g.agrees f ∧ g.line = f.line := by
  have hread (f : TraceFact) (hf : isDistance f.distance) :
      ∃ g, ofLine f.line = .ok (some g) ∧ g.agrees f ∧ g.line = f.line :=
    ⟨f.canonical, ofLine_line hf, canonical_agrees hf, f.line_canonical⟩
  constructor
  · intro f hfin hneg
    apply hread
    simp [isDistance, hfin, hneg]
  · intro l f hl
    exact hread f (isDistance_of_ofLine hl)

def strange : TraceFact :=
  ⟨18446744073709551615, ⟨" $ root\n$[branch[1 2]$", 0⟩, .ofMagnitude true 0⟩

def nameless : TraceFact := ⟨7, ⟨"", 3⟩, .ofRatio false 1 2⟩

theorem ofLine_inverse_strange :
    (strange.distance.isFinite ∧ ¬ strange.distance.lt .zero ∧
      ∃ g, ofLine strange.line = .ok (some g) ∧ g.agrees strange ∧ g.line = strange.line) ∧
    (ofLine " 7 $$ branch[3 .50]\t" = .ok (some nameless) ∧
      ∃ g, ofLine nameless.line = .ok (some g) ∧ g.agrees nameless ∧ g.line = nameless.line) := by
  have hfin : strange.distance.isFinite := by decide
  have hneg : ¬ strange.distance.lt .zero := by decide
  have hl : ofLine " 7 $$ branch[3 .50]\t" = .ok (some nameless) := by decide +kernel
  exact ⟨⟨hfin, hneg, ofLine_inverse.1 strange hfin hneg⟩, hl, ofLine_inverse.2 _ _ hl⟩

end TraceFact
end UnitTestGen
