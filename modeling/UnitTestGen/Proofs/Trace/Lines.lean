import UnitTestGen.Proofs.Binary64.RoundTrip
import UnitTestGen.Proofs.Text.Search
import UnitTestGen.Trace.Decode

/-! Facts as lines of a text. The line of a fact has no line feed unless the identity of its
function has one, and from a text in which every line is ended by a line feed the decoder reads what
it reads from the lines, since a carriage return that is lost at the end of a line is blank. -/

namespace UnitTestGen

namespace Text

theorem trim_concat_blank {c : Char} (hc : isBlank c) (s : List Char) :
    trim (s ++ [c]) = trim s := by
  unfold trim trimStart
  rw [List.dropWhile_append]
  -- a line of blanks is trimmed from the start already, and any other from the end
  split
  · rename_i hs
    rw [List.isEmpty_iff.1 hs, List.dropWhile_cons_of_pos hc]
    rfl
  · exact trimEnd_append_blank (by simpa using hc) _

def chomp : List Char → List Char
  | [] => []
  | ['\r'] => []
  | c :: s => c :: chomp s

theorem chomp_eq_or (s : List Char) : chomp s = s ∨ chomp s ++ ['\r'] = s := by
  fun_induction chomp s with
  | case1 => exact .inl rfl
  | case2 => exact .inr rfl
  | case3 c s _ ih => exact ih.imp (congrArg (c :: ·)) (congrArg (c :: ·))

theorem trim_chomp (s : List Char) : trim (chomp s) = trim s := by
  rcases chomp_eq_or s with hs | hs
  · rw [hs]
  · have htrim := trim_concat_blank (c := '\r') (by decide) (chomp s)
    rw [hs] at htrim
    exact htrim.symm

theorem lines_append_newline {l : List Char} (hl : '\n' ∉ l) (s : List Char) :
    lines (l ++ '\n' :: s) = chomp l :: lines s := by
  fun_induction chomp l with
  | case1 => rfl
  | case2 => rfl
  | case3 c l hc ih =>
    have hne : c ≠ '\n' := fun h => hl (h ▸ List.mem_cons_self)
    have ih := ih fun h => hl (List.mem_cons_of_mem _ h)
    have hcr (t : List Char) : c = '\r' → l ++ '\n' :: s ≠ '\n' :: t := by
      rintro rfl ht
      cases l with
      | nil => exact hc rfl rfl
      | cons d l => exact hl (by simp [List.cons.inj ht])
    have hcons : lines (c :: (l ++ '\n' :: s)) = consHead c (lines (l ++ '\n' :: s)) := by
      rw [lines]
      · exact hne
      · exact hcr
    rw [List.cons_append, hcons, ih]
    rfl

theorem lines_of_notMem {l : List Char} (hne : l ≠ []) (hl : '\n' ∉ l) : lines l = [l] := by
  induction l with
  | nil => exact absurd rfl hne
  | cons c l ih =>
    have hc : c ≠ '\n' := fun h => hl (h ▸ List.mem_cons_self)
    have hrest : '\n' ∉ l := fun h => hl (List.mem_cons_of_mem c h)
    have hcr (t : List Char) : c = '\r' → l ≠ '\n' :: t := by
      rintro - rfl
      exact hrest List.mem_cons_self
    rw [lines]
    · cases l with
      | nil => rfl
      | cons d l => rw [ih (List.cons_ne_nil d l) hrest, consHead]
    · exact hc
    · exact hcr

theorem lines_flatMap_newline {ls : List (List Char)} (hls : ∀ l ∈ ls, '\n' ∉ l) :
    lines (ls.flatMap (· ++ ['\n'])) = ls.map chomp := by
  induction ls with
  | nil => rfl
  | cons l ls ih =>
    have hl := hls l List.mem_cons_self
    rw [List.flatMap_cons, List.append_assoc, List.singleton_append, lines_append_newline hl,
      ih fun l' h => hls l' (List.mem_cons_of_mem _ h), List.map_cons]

end Text

namespace TraceFact

theorem newline_notMem_line {f : TraceFact} (hf : '\n' ∉ f.block.globalId.toList) :
    '\n' ∉ f.line.toList := by
  have hnat (n : Nat) : '\n' ∉ Nat.toDigits 10 n := by
    intro h
    exact absurd (Nat.isDigit_of_mem_toDigits (by decide) (by decide) h) (by decide)
  have htext : '\n' ∉ (f.distance.text .plain).toList := by
    intro h
    exact absurd (Binary64.mem_text_plain h) (by decide)
  unfold line
  split <;> simp [String.toList_append, hnat, hf, htext]

theorem ofLine_congr {s t : String} (h : Text.trim s.toList = Text.trim t.toList) :
    ofLine s = ofLine t := by
  unfold ofLine
  rw [h]

end TraceFact

namespace Traces

theorem ofLines_map {f : String → String} (hf : ∀ l, TraceFact.ofLine (f l) = TraceFact.ofLine l)
    (ls : List String) : ofLines (ls.map f) = ofLines ls := by
  unfold ofLines
  have hread : TraceFact.ofLine ∘ f = TraceFact.ofLine := funext hf
  rw [List.mapM_map, hread]

theorem ofLines_append_error {ks : List String} {e : TraceError} (h : ofLines ks = .error e)
    (ls : List String) : ofLines (ks ++ ls) = .error e := by
  unfold ofLines at h ⊢
  rw [List.mapM_append]
  cases hk : ks.mapM TraceFact.ofLine with
  | error e' =>
    rw [hk] at h
    exact h
  | ok facts =>
    rw [hk] at h
    nomatch h

def written (ls : List String) : String := String.join (ls.map (· ++ "\n"))

theorem ofText_written {ls : List String} (hls : ∀ l ∈ ls, '\n' ∉ l.toList) :
    ofText (written ls) = ofLines ls := by
  have htext : (written ls).toList = (ls.map String.toList).flatMap (· ++ ['\n']) := by
    simp [written, String.toList_join, List.flatMap_map]
  have hlines : textLines (written ls) =
      ls.map fun l => String.ofList (Text.chomp l.toList) := by
    unfold textLines
    rw [htext, Text.lines_flatMap_newline (by simpa using hls), List.map_map, List.map_map]
    rfl
  unfold ofText
  rw [hlines, ofLines_map fun l => TraceFact.ofLine_congr ?_]
  rw [String.toList_ofList, Text.trim_chomp]

end Traces
end UnitTestGen
