/-! Occurrences of one text in another. -/

namespace UnitTestGen.Text

def cut (p : List Char) : List Char → Option (List Char × List Char)
  | [] => if p.isEmpty then some ([], []) else none
  | c :: s =>
    if p.isPrefixOf (c :: s) then some ([], (c :: s).drop p.length)
    else (cut p s).map fun (before, after) => (c :: before, after)

def cutLast (p : List Char) : List Char → Option (List Char × List Char)
  | [] => if p.isEmpty then some ([], []) else none
  | c :: s =>
    match cutLast p s with
    | some (before, after) => some (c :: before, after)
    | none => if p.isPrefixOf (c :: s) then some ([], (c :: s).drop p.length) else none

def afterLast (p s : List Char) : List Char := ((cutLast p s).map (·.2)).getD s

def contains (p s : List Char) : Bool := (cut p s).isSome

theorem cut_eq_append {p s before after : List Char} (h : cut p s = some (before, after)) :
    s = before ++ p ++ after := by
  induction s generalizing before after with
  | nil =>
    simp only [cut] at h
    split at h
    · simp_all
    · simp at h
  | cons c s ih =>
    simp only [cut] at h
    split at h
    · rename_i hp
      obtain ⟨t, ht⟩ := List.isPrefixOf_iff_prefix.1 hp
      simp only [Option.some.injEq, Prod.mk.injEq] at h
      obtain ⟨rfl, rfl⟩ := h
      rw [← ht]; simp
    · obtain ⟨⟨b, a⟩, hb, he⟩ := Option.map_eq_some_iff.1 h
      simp only [Prod.mk.injEq] at he
      obtain ⟨rfl, rfl⟩ := he
      simp [ih hb]

theorem cutLast_eq_append {p s before after : List Char} (h : cutLast p s = some (before, after)) :
    s = before ++ p ++ after := by
  induction s generalizing before after with
  | nil =>
    simp only [cutLast] at h
    split at h
    · simp_all
    · simp at h
  | cons c s ih =>
    simp only [cutLast] at h
    split at h
    · rename_i b a hb
      simp only [Option.some.injEq, Prod.mk.injEq] at h
      obtain ⟨rfl, rfl⟩ := h
      simp [ih hb]
    · split at h
      · rename_i hp
        obtain ⟨t, ht⟩ := List.isPrefixOf_iff_prefix.1 hp
        simp only [Option.some.injEq, Prod.mk.injEq] at h
        obtain ⟨rfl, rfl⟩ := h
        rw [← ht]; simp
      · simp at h

end UnitTestGen.Text
