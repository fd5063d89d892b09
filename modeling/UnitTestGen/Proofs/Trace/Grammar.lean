import UnitTestGen.Proofs.Text.Words
import UnitTestGen.Trace.Fact

/-! Which lines are facts. The parts of a line are found by searches that do not depend on each other,
for the first word, for the first and the last dollar sign and for the first bracket; each finds what
it looks for in one place only, so a line is read in one way. What stands behind the identity of a
function is held to its form after the word `branch`, but not after the word `root`, where anything
is passed over that begins with a bracket. -/

namespace UnitTestGen.TraceFact

open Text

/-- The documented forms of what stands behind the identity of a function, with the block and the
distance that they stand for. -/
inductive Documented : List Char → UInt64 → Binary64 → Prop
  | root : Documented ['r', 'o', 'o', 't'] 0 .zero
  | branch {inner index distance : List Char} {block : UInt64} {d : Binary64}
      (hwords : words inner = [index, distance]) (hindex : readUInt64 index = some block)
      (hdistance : Binary64.read distance = some d) (hfin : d.isFinite) (hneg : ¬ d.lt .zero) :
      Documented (['b', 'r', 'a', 'n', 'c', 'h', '['] ++ inner ++ [']']) block d

/-- The parts of a line: its first word is the test id, the identity of a function stands between the
first and the last dollar sign, and the rest behind them, blanks around both aside. -/
structure HasParts (text : String) (testId : UInt64) (globalId rest : List Char) : Prop where
  testId : ∃ token tail, trim text.toList = token ++ tail ∧ token ≠ [] ∧
    (∀ c ∈ token, isBlank c = false) ∧ tail.head?.all isBlank ∧ readUInt64 token = some testId
  globalId : ∃ before after, trim text.toList = before ++ '$' :: (globalId ++ '$' :: after) ∧
    '$' ∉ before ∧ '$' ∉ after ∧ rest = trim after

def Overlooked (rest : List Char) : Prop := ∃ junk, rest = ['r', 'o', 'o', 't', '['] ++ junk

def Accepted (rest : List Char) (block : UInt64) (d : Binary64) : Prop :=
  Documented rest block d ∨ Overlooked rest ∧ block = 0 ∧ d = .zero

def IsWritten (form : List Char → UInt64 → Binary64 → Prop) (text : String) (f : TraceFact) : Prop :=
  ∃ rest, HasParts text f.testId f.block.globalId.toList rest ∧ form rest f.block.blockId f.distance

theorem Overlooked.not_documented {rest : List Char} (h : Overlooked rest) {block : UInt64}
    {d : Binary64} : ¬ Documented rest block d := by
  obtain ⟨junk, rfl⟩ := h
  generalize hrest : ['r', 'o', 'o', 't', '['] ++ junk = rest
  intro hdoc
  cases hdoc <;> cases hrest

theorem dollarParts_eq_some_iff {s globalId after : List Char} :
    dollarParts s = some (globalId, after) ↔
      ∃ before, s = before ++ '$' :: (globalId ++ '$' :: after) ∧ '$' ∉ before ∧ '$' ∉ after := by
  unfold dollarParts
  rw [Option.bind_eq_bind, Option.bind_eq_some_iff]
  constructor
  · rintro ⟨⟨before, tail⟩, hcut, hlast⟩
    obtain ⟨rfl, hbefore⟩ := cut_singleton_eq_some_iff.1 hcut
    obtain ⟨rfl, hafter⟩ := cutLast_singleton_eq_some_iff.1 hlast
    exact ⟨before, rfl, hbefore, hafter⟩
  · rintro ⟨before, rfl, hbefore, hafter⟩
    exact ⟨(before, _), cut_singleton hbefore _, cutLast_singleton hafter _⟩

theorem hasParts_iff {text : String} {testId : UInt64} {globalId rest : List Char} :
    HasParts text testId globalId rest ↔
      (words (trim text.toList)).head?.bind readUInt64 = some testId ∧
      ∃ after, dollarParts (trim text.toList) = some (globalId, after) ∧ rest = trim after := by
  have hword {token : List Char} := head?_words_eq_some_iff (s := trim text.toList) (w := token)
    fun _ => isBlank_of_head?_trim
  rw [Option.bind_eq_some_iff]
  constructor
  · rintro ⟨⟨token, tail, htoken, hne, hsolid, hblank, hread⟩,
      before, after, hparts, hbefore, hafter, rfl⟩
    exact ⟨⟨token, hword.2 ⟨tail, htoken, hne, hsolid, hblank⟩, hread⟩,
      after, dollarParts_eq_some_iff.2 ⟨before, hparts, hbefore, hafter⟩, rfl⟩
  · rintro ⟨⟨token, htoken, hread⟩, after, hparts, rfl⟩
    obtain ⟨tail, htext, hne, hsolid, hblank⟩ := hword.1 htoken
    obtain ⟨before, hdollars, hbefore, hafter⟩ := dollarParts_eq_some_iff.1 hparts
    exact ⟨⟨token, tail, htext, hne, hsolid, hblank, hread⟩,
      before, after, hdollars, hbefore, hafter, rfl⟩

theorem HasParts.rest_unique {text : String} {testId testId' : UInt64}
    {globalId globalId' rest rest' : List Char} (h : HasParts text testId globalId rest)
    (h' : HasParts text testId' globalId' rest') : rest' = rest := by
  obtain ⟨_, after, hparts, rfl⟩ := hasParts_iff.1 h
  obtain ⟨_, after', hparts', rfl⟩ := hasParts_iff.1 h'
  obtain ⟨_, rfl⟩ := Prod.mk.inj (Option.some.inj (hparts.symm.trans hparts'))
  rfl

theorem kindAndPayload_eq_iff {s kind payload : List Char} :
    kindAndPayload s = (kind, payload) ↔
      s = kind ++ payload ∧ '[' ∉ kind ∧ ∀ c ∈ payload.head?, c = '[' := by
  have hnot {c : Char} : (c != '[') = true ↔ c ≠ '[' := bne_iff_ne
  unfold kindAndPayload
  constructor
  · intro h
    obtain ⟨rfl, rfl⟩ := Prod.mk.inj h
    refine ⟨List.takeWhile_append_dropWhile.symm, fun hmem => ?_, fun c hc => ?_⟩
    · exact absurd (List.mem_takeWhile_imp hmem) (by decide)
    · have hhead := List.head?_dropWhile_not (· != '[') s
      rw [hc] at hhead
      simpa using hhead
  · rintro ⟨rfl, hkind, hpayload⟩
    have hall : ∀ c ∈ kind, (c != '[') = true := fun c hc => hnot.2 fun h => hkind (h ▸ hc)
    have hstop : ∀ c ∈ payload.head?, ¬ (c != '[') = true := by
      intro c hc
      simp [hpayload c hc]
    rw [takeWhile_append_of_head hall hstop, dropWhile_append_of_head hall hstop]

theorem readPayload_eq_some_iff {payload : List Char} {block : UInt64} {d : Binary64} :
    readPayload payload = some (block, d) ↔ ∃ inner index distance,
      payload = '[' :: (inner ++ [']']) ∧ words inner = [index, distance] ∧
      readUInt64 index = some block ∧ Binary64.read distance = some d ∧ isDistance d := by
  constructor
  · intro h
    unfold readPayload at h
    split at h
    · rename_i rest
      split at h
      · rename_i inner hrest
        split at h
        · rename_i index distance hwords
          obtain ⟨i, hi, h⟩ := Option.bind_eq_some_iff.1 h
          obtain ⟨e, he, h⟩ := Option.bind_eq_some_iff.1 h
          cases h
          obtain ⟨hread, hdistance⟩ := Option.filter_eq_some_iff.1 he
          have hend : rest = inner.reverse ++ [']'] := by
            rw [← List.reverse_reverse rest, hrest, List.reverse_cons]
          exact ⟨inner.reverse, index, distance, by rw [hend], hwords, hi, hread, hdistance⟩
        · cases h
      · cases h
      · cases h
    · cases h
  · rintro ⟨inner, index, distance, rfl, hwords, hindex, hread, hdistance⟩
    unfold readPayload
    simp only [List.reverse_append, List.reverse_singleton, List.singleton_append,
      List.reverse_reverse, hwords, hindex, hread, Option.filter_some, if_pos hdistance]
    rfl

theorem isDistance_iff {d : Binary64} : isDistance d ↔ d.isFinite ∧ ¬ d.lt .zero := by
  simp [isDistance]

theorem Accepted.isDistance {rest : List Char} {block : UInt64} {d : Binary64}
    (h : Accepted rest block d) : isDistance d := by
  rcases h with hdoc | ⟨-, -, rfl⟩
  · cases hdoc with
    | root => decide
    | branch _ _ _ hfin hneg => exact isDistance_iff.2 ⟨hfin, hneg⟩
  · decide

theorem accepted_root_iff {payload : List Char} (hpayload : ∀ c ∈ payload.head?, c = '[')
    {block : UInt64} {d : Binary64} :
    Accepted (['r', 'o', 'o', 't'] ++ payload) block d ↔ block = 0 ∧ d = .zero := by
  constructor
  · rintro (hdoc | ⟨_, h⟩)
    · generalize hrest : ['r', 'o', 'o', 't'] ++ payload = rest at hdoc
      cases hdoc with
      | root => exact ⟨rfl, rfl⟩
      | branch => cases hrest
    · exact h
  · rintro ⟨rfl, rfl⟩
    cases payload with
    | nil => exact .inl .root
    | cons c junk =>
      obtain rfl : c = '[' := hpayload c rfl
      exact .inr ⟨⟨junk, rfl⟩, rfl, rfl⟩

theorem accepted_branch_iff {payload : List Char} {block : UInt64} {d : Binary64} :
    Accepted (['b', 'r', 'a', 'n', 'c', 'h'] ++ payload) block d ↔
      readPayload payload = some (block, d) := by
  rw [readPayload_eq_some_iff]
  constructor
  · rintro (hdoc | ⟨⟨junk, hjunk⟩, _⟩)
    · generalize hrest : ['b', 'r', 'a', 'n', 'c', 'h'] ++ payload = rest at hdoc
      cases hdoc with
      | root => cases hrest
      | @branch inner index distance _ _ hwords hindex hdistance hfin hneg =>
        have hpayload : payload = '[' :: (inner ++ [']']) := by simpa using hrest
        exact ⟨inner, index, distance, hpayload, hwords, hindex, hdistance,
          isDistance_iff.2 ⟨hfin, hneg⟩⟩
    · cases hjunk
  · rintro ⟨inner, index, distance, rfl, hwords, hindex, hread, hdistance⟩
    obtain ⟨hfin, hneg⟩ := isDistance_iff.1 hdistance
    exact .inl (.branch hwords hindex hread hfin hneg)

theorem not_accepted {kind payload : List Char} (hkind : '[' ∉ kind)
    (hpayload : ∀ c ∈ payload.head?, c = '[') (hroot : kind ≠ ['r', 'o', 'o', 't'])
    (hbranch : kind ≠ ['b', 'r', 'a', 'n', 'c', 'h']) {block : UInt64} {d : Binary64} :
    ¬ Accepted (kind ++ payload) block d := by
  have hsplit : kindAndPayload (kind ++ payload) = (kind, payload) :=
    kindAndPayload_eq_iff.2 ⟨rfl, hkind, hpayload⟩
  rintro (hdoc | ⟨⟨junk, hjunk⟩, _⟩)
  · generalize kind ++ payload = rest at hdoc hsplit
    cases hdoc with
    | root => exact hroot (congrArg Prod.fst hsplit).symm
    | branch => exact hbranch (congrArg Prod.fst hsplit).symm
  · rw [hjunk] at hsplit
    exact hroot (congrArg Prod.fst hsplit).symm

theorem ofLine_of_parts {text : String} {testId : UInt64} {globalId after kind payload : List Char}
    (htestId : (words (trim text.toList)).head?.bind readUInt64 = some testId)
    (hparts : dollarParts (trim text.toList) = some (globalId, after))
    (hsplit : kindAndPayload (trim after) = (kind, payload)) {f : TraceFact} :
    ofLine text = .ok (some f) ↔ f.testId = testId ∧ f.block.globalId = String.ofList globalId ∧
      Accepted (kind ++ payload) f.block.blockId f.distance := by
  obtain ⟨-, hkind, hpayload⟩ := kindAndPayload_eq_iff.1 hsplit
  obtain ⟨testId', ⟨globalId', block⟩, distance⟩ := f
  unfold ofLine
  simp only [htestId, hparts, hsplit]
  by_cases hroot : kind = ['r', 'o', 'o', 't']
  · subst hroot
    rw [if_pos rfl, accepted_root_iff hpayload]
    simp only [Except.ok.injEq, Option.some.injEq, TraceFact.mk.injEq, Block.mk.injEq]
    grind
  · rw [if_neg hroot]
    by_cases hbranch : kind = ['b', 'r', 'a', 'n', 'c', 'h']
    · subst hbranch
      rw [if_pos rfl, accepted_branch_iff]
      cases readPayload payload with
      | none => simp
      | some read =>
        simp only [Except.ok.injEq, Option.some.injEq, TraceFact.mk.injEq, Block.mk.injEq, Prod.ext_iff]
        grind
    · rw [if_neg hbranch]
      simp [not_accepted hkind hpayload hroot hbranch]

theorem ofLine_eq_ok_some_iff {text : String} {f : TraceFact} :
    ofLine text = .ok (some f) ↔ IsWritten Accepted text f := by
  simp only [IsWritten, hasParts_iff]
  constructor
  · intro h
    cases htestId : (words (trim text.toList)).head?.bind readUInt64 with
    | none => simp [ofLine, htestId] at h
    | some testId =>
      cases hparts : dollarParts (trim text.toList) with
      | none => simp [ofLine, htestId, hparts] at h
      | some parts =>
        obtain ⟨globalId, after⟩ := parts
        obtain ⟨hid, hglobal, hform⟩ := (ofLine_of_parts htestId hparts rfl).1 h
        rw [← (kindAndPayload_eq_iff.1 rfl).1] at hform
        exact ⟨_, ⟨by rw [hid], after, by rw [hglobal, String.toList_ofList], rfl⟩, hform⟩
  · rintro ⟨_, ⟨htestId, after, hparts, rfl⟩, hform⟩
    rw [(kindAndPayload_eq_iff (s := trim after).1 rfl).1] at hform
    exact (ofLine_of_parts htestId hparts rfl).2 ⟨rfl, String.ofList_toList.symm, hform⟩

/-- A line is read as a fact exactly if it has its parts in an accepted form, and this form is a
documented one unless something is passed over behind the word `root`. -/
theorem accepted_exact (text : String) (f : TraceFact) :
    (ofLine text = .ok (some f) ↔ IsWritten Accepted text f) ∧
    ((ofLine text = .ok (some f) → IsWritten Documented text f) ↔
      ¬ IsWritten (fun rest block d => Overlooked rest ∧ block = 0 ∧ d = .zero) text f) := by
  refine ⟨ofLine_eq_ok_some_iff, ?_⟩
  rw [ofLine_eq_ok_some_iff]
  constructor
  · rintro hdocumented ⟨rest, hrest, hover⟩
    obtain ⟨rest', hrest', hdoc⟩ := hdocumented ⟨rest, hrest, .inr hover⟩
    obtain rfl := hrest.rest_unique hrest'
    exact hover.1.not_documented hdoc
  · rintro hnone ⟨rest, hrest, hdoc | hover⟩
    · exact ⟨rest, hrest, hdoc⟩
    · exact absurd ⟨rest, hrest, hover⟩ hnone

theorem not_forall_documented :
    ¬ ∀ text f, ofLine text = .ok (some f) → IsWritten Documented text f := by
  intro h
  have hparts : HasParts "1 $a$ root[1 2]" 1 ['a'] ['r', 'o', 'o', 't', '[', '1', ' ', '2', ']'] :=
    hasParts_iff.2 ⟨by decide +kernel, [' ', 'r', 'o', 'o', 't', '[', '1', ' ', '2', ']'],
      by decide +kernel, by decide +kernel⟩
  have hread : ofLine "1 $a$ root[1 2]" = .ok (some ⟨1, ⟨"a", 0⟩, .zero⟩) := by decide +kernel
  obtain ⟨rest, hrest, hdoc⟩ := h _ _ hread
  obtain rfl := hparts.rest_unique hrest
  exact Overlooked.not_documented ⟨['1', ' ', '2', ']'], rfl⟩ hdoc

end UnitTestGen.TraceFact
