import Mathlib.Data.List.TakeWhile
import UnitTestGen.Exec.Container
import UnitTestGen.Proofs.Host.Rewriting
import UnitTestGen.Proofs.Text.Search

/-! What is left in a source file after its tests were written into it and taken out again. The
source is never lost, up to the blanks at its end. The tests are taken out up to the first end
marker, which is the one behind them unless they hold one themselves, in a string literal for
example; then what follows that one stays in the file. -/

namespace UnitTestGen

namespace Marker

/-- What clearing leaves of a generated text: nothing, unless an end marker stands in it. -/
def leftover (generated : List Char) : List Char :=
  match Text.cut stop.toList generated with
  | some (_, after) => (after ++ stop.toList ++ ['\n']).dropWhile (· == '\n')
  | none => []

theorem newline_notMem_start : '\n' ∉ start.toList := by decide

theorem newline_notMem_stop : '\n' ∉ stop.toList := by decide

theorem slash_mem_stop : '/' ∈ stop.toList := by decide

theorem start_ne_nil : start.toList ≠ [] := by decide

theorem stop_ne_nil : stop.toList ≠ [] := List.ne_nil_of_mem slash_mem_stop

theorem stop_not_infix_start : ¬ stop.toList <:+: start.toList :=
  Text.cut_eq_none_iff.1 (by decide)

theorem leftover_eq_nil_iff {generated : List Char} :
    leftover generated = [] ↔ ¬ stop.toList <:+: generated := by
  rw [← Text.cut_eq_none_iff]
  unfold leftover
  cases hcut : Text.cut stop.toList generated with
  | none => simp
  | some found =>
    -- the marker that closes the block is not made of line feeds, so it is left
    have hslash : '/' ∈ found.2 ++ stop.toList ++ ['\n'] :=
      List.mem_append_left _ (List.mem_append_right _ slash_mem_stop)
    refine iff_of_false (fun hnil => ?_) (by simp)
    rw [List.dropWhile_eq_nil_iff] at hnil
    exact absurd (hnil '/' hslash) (by decide)

theorem strip_of_not_infix_start {source : List Char} (h : ¬ start.toList <:+: source) :
    strip source = source := by
  unfold strip
  rw [Text.cut_eq_none_iff.2 h]

section Place

variable {source generated : List Char} (hstart : ¬ start.toList <:+: source)
  (hstop : ¬ stop.toList <:+: source)

include hstart in
theorem place_eq : place source generated = Text.trimEnd source ++
    '\n' :: ([] ++ '\n' :: (start.toList ++ '\n' :: (generated ++ (stop.toList ++ ['\n'])))) := by
  unfold place
  rw [strip_of_not_infix_start hstart]
  simp [show "\n\n".toList = ['\n', '\n'] from rfl]

include hstart in
theorem cut_start_place : Text.cut start.toList (place source generated) =
    some (Text.trimEnd source ++ ['\n', '\n'], '\n' :: (generated ++ (stop.toList ++ ['\n']))) := by
  have hnl := newline_notMem_start
  have hne := start_ne_nil
  have htrim : ¬ start.toList <:+: Text.trimEnd source := fun h =>
    hstart (h.trans (Text.trimEnd_prefix source).isInfix)
  have hnil : ¬ start.toList <:+: [] := fun h => hne (List.infix_nil.1 h)
  rw [place_eq hstart, Text.cut_append_cons_of_not_infix hnl hne htrim,
    Text.cut_append_cons_of_not_infix hnl hne hnil, Text.cut_self_append hne]
  simp

include hstart hstop in
theorem cut_stop_place (hg : ∃ t, generated = t ++ ['\n']) :
    ∃ upTo, Text.cut stop.toList (place source generated) =
      some (Text.trimEnd source ++ ['\n', '\n'] ++ start.toList ++ upTo,
        match Text.cut stop.toList generated with
        | some (_, after) => after ++ stop.toList ++ ['\n']
        | none => ['\n']) := by
  have hnl := newline_notMem_stop
  have hne := stop_ne_nil
  have htrim : ¬ stop.toList <:+: Text.trimEnd source := fun h =>
    hstop (h.trans (Text.trimEnd_prefix source).isInfix)
  have hnil : ¬ stop.toList <:+: [] := fun h => hne (List.infix_nil.1 h)
  obtain ⟨t, rfl⟩ := hg
  have hend : t ++ ['\n'] ++ (stop.toList ++ ['\n']) = t ++ '\n' :: (stop.toList ++ ['\n']) := by
    simp
  rw [place_eq hstart, Text.cut_append_cons_of_not_infix hnl hne htrim,
    Text.cut_append_cons_of_not_infix hnl hne hnil,
    Text.cut_append_cons_of_not_infix hnl hne stop_not_infix_start, hend,
    Text.cut_append_cons hnl hne, Text.cut_append_cons hnl hne t [], Text.cut_self_append hne,
    Text.cut_eq_none_iff.2 hnil]
  cases Text.cut stop.toList t with
  | none => exact ⟨'\n' :: (t ++ ['\n']), by simp⟩
  | some found => exact ⟨'\n' :: found.1, by simp⟩

include hstart hstop in
theorem strip_place (hg : ∃ t, generated = t ++ ['\n']) :
    strip (place source generated) = Text.trimEnd source ++ '\n' :: leftover generated := by
  obtain ⟨upTo, hcut⟩ := cut_stop_place hstart hstop hg
  have hlt : (Text.trimEnd source ++ ['\n', '\n']).length <
      (Text.trimEnd source ++ ['\n', '\n'] ++ start.toList ++ upTo).length := by
    have hpos : 0 < start.toList.length := List.length_pos_iff.2 start_ne_nil
    simp only [List.length_append]
    omega
  have hblank : ∀ c ∈ ['\n', '\n'], Text.isBlank c := by
    intro c hc
    obtain rfl : c = '\n' := by simpa using hc
    decide
  have htrim : Text.trimEnd (Text.trimEnd source ++ ['\n', '\n']) = Text.trimEnd source := by
    rw [Text.trimEnd_append_blank hblank, Text.trimEnd_trimEnd]
  unfold strip leftover
  rw [cut_start_place hstart, hcut]
  dsimp only
  rw [if_pos hlt, htrim]
  cases Text.cut stop.toList generated <;> rfl

end Place

theorem utf8ByteSize_le_of_infix {s t : List Char} (h : s <:+: t) :
    (String.ofList s).utf8ByteSize ≤ (String.ofList t).utf8ByteSize := by
  obtain ⟨before, after, rfl⟩ := h
  simp only [String.ofList_append, String.utf8ByteSize_append]
  omega

theorem strip_eq_or_lt (source : List Char) : strip source = source ∨
    (String.ofList (strip source)).utf8ByteSize < (String.ofList source).utf8ByteSize := by
  unfold strip
  split
  · rename_i before rest upTo after hstart hstop
    split
    · rename_i hlt
      right
      have hbegin : source = before ++ start.toList ++ rest := Text.cut_eq_append hstart
      have hend : source = upTo ++ stop.toList ++ after := Text.cut_eq_append hstop
      have hbefore : before <+: upTo := by
        have hb : before <+: source := by
          rw [hbegin, List.append_assoc]
          exact List.prefix_append _ _
        have hu : upTo <+: source := by
          rw [hend, List.append_assoc]
          exact List.prefix_append _ _
        exact List.prefix_of_prefix_length_le hb hu (Nat.le_of_lt hlt)
      -- what goes away is more than the line feed that is put in its place
      have hkept := utf8ByteSize_le_of_infix ((Text.trimEnd_prefix before).trans hbefore).isInfix
      have hsuffix : after.dropWhile (· == '\n') <:+ after := List.dropWhile_suffix _
      have htail := utf8ByteSize_le_of_infix hsuffix.isInfix
      have hmarker : 1 < stop.utf8ByteSize := by decide
      rw [hend, List.append_cons _ '\n']
      simp only [String.ofList_append, String.utf8ByteSize_append, String.ofList_toList]
      have hnl : (String.ofList ['\n']).utf8ByteSize = 1 := by decide
      omega
    · exact .inl rfl
  · exact .inl rfl

end Marker

namespace SourceContainer

theorem cleared_eq_of_utf8ByteSize {source : String}
    (h : (cleared source).utf8ByteSize = source.utf8ByteSize) : cleared source = source := by
  rcases Marker.strip_eq_or_lt source.toList with heq | hlt
  · unfold cleared
    rw [heq, String.ofList_toList]
  · rw [String.ofList_toList] at hlt
    exact absurd h (Nat.ne_of_lt hlt)

theorem toList_unlines_concat (ls : List String) (l : String) :
    (unlines (ls ++ [l])).toList = (unlines ls ++ l).toList ++ ['\n'] := by
  unfold unlines
  rw [List.map_append, String.join_append]
  simp [String.join]

theorem toList_unlines (ls : List String) :
    (unlines ls).toList = ls.flatMap fun l => l.toList ++ ['\n'] := by
  induction ls using List.reverseRecOn with
  | nil => rfl
  | append_singleton ls l ih =>
    rw [toList_unlines_concat, String.toList_append, ih]
    simp

theorem exists_testModuleText_eq (name : String) (cases : List TestCase) :
    ∃ t, (testModuleText name cases).toList = t ++ ['\n'] := ⟨_, toList_unlines_concat _ _⟩

/-- The source with one line feed in place of the blanks at its end. -/
def tidied (source : String) : String := String.ofList (Text.trimEnd source.toList ++ ['\n'])

def moduleText (k : SourceContainer) : String := testModuleText k.testModule k.chromosomes

variable {W : Type} [Host (StateM W)] {k : SourceContainer} {Holds : W → String → Prop} {w : W}
  {source : String}

theorem toList_cleared_refreshed (hstart : ¬ Marker.start.toList <:+: source.toList)
    (hstop : ¬ Marker.stop.toList <:+: source.toList) :
    (cleared (k.refreshed source)).toList =
      Text.trimEnd source.toList ++ '\n' :: Marker.leftover k.moduleText.toList := by
  unfold cleared refreshed
  rw [String.toList_ofList, String.toList_ofList]
  exact Marker.strip_place hstart hstop (exists_testModuleText_eq _ _)

theorem eq_tidied_iff {left : String} {generated : List Char}
    (h : left.toList = Text.trimEnd source.toList ++ '\n' :: Marker.leftover generated) :
    left = tidied source ↔ ¬ Marker.stop.toList <:+: generated := by
  unfold tidied
  rw [← Marker.leftover_eq_nil_iff, ← String.toList_inj, String.toList_ofList, h]
  simp

section Run

variable (h : Host.RewritesFile k.sourcePath Holds)
include h

theorem run_refresh (hw : Holds w source) :
    ∃ w', (k.refresh : StateM W _).run w = (.ok (), w') ∧ Holds w' (k.refreshed source) := by
  obtain ⟨w₁, hread, hw₁⟩ := h.readFile hw
  obtain ⟨w₂, hwrite, hw₂⟩ := h.writeFile (k.refreshed source) hw₁
  refine ⟨w₂, ?_, hw₂⟩
  unfold refresh
  rw [run_bind_of_eq (run_readText_of_eq hread)]
  dsimp only
  rw [run_bind_of_eq hwrite]
  rfl

theorem run_clear (hw : Holds w source) :
    ∃ w', (k.clear : StateM W _).run w = (.ok (), w') ∧ Holds w' (cleared source) := by
  obtain ⟨w₁, hread, hw₁⟩ := h.readFile hw
  unfold clear
  rw [run_bind_of_eq (run_readText_of_eq hread)]
  dsimp only
  split
  · rename_i hsize
    rw [cleared_eq_of_utf8ByteSize hsize]
    exact ⟨w₁, rfl, hw₁⟩
  · obtain ⟨w₂, hwrite, hw₂⟩ := h.writeFile (cleared source) hw₁
    refine ⟨w₂, ?_, hw₂⟩
    rw [run_bind_of_eq hwrite]
    rfl

theorem run_refresh_clear (hw : Holds w source)
    (hstart : ¬ Marker.start.toList <:+: source.toList)
    (hstop : ¬ Marker.stop.toList <:+: source.toList) :
    ∃ w₁ w₂ left, (k.refresh : StateM W _).run w = (.ok (), w₁) ∧
      (k.clear : StateM W _).run w₁ = (.ok (), w₂) ∧ Holds w₂ left ∧
      left.toList = Text.trimEnd source.toList ++ '\n' :: Marker.leftover k.moduleText.toList := by
  obtain ⟨w₁, hrefresh, hw₁⟩ := run_refresh h hw
  obtain ⟨w₂, hclear, hw₂⟩ := run_clear h hw₁
  exact ⟨w₁, w₂, _, hrefresh, hclear, hw₂, toList_cleared_refreshed hstart hstop⟩

/-- Writing tests into a file that holds no marker and clearing it leaves the source, its end
tidied, and behind it what follows an end marker in the tests; so nothing but the source is left
exactly if the text of the tests holds no end marker. -/
theorem cleared_source_exact (hw : Holds w source)
    (hstart : ¬ Marker.start.toList <:+: source.toList)
    (hstop : ¬ Marker.stop.toList <:+: source.toList) :
    ∃ w₁ w₂ left, (k.refresh : StateM W _).run w = (.ok (), w₁) ∧
      (k.clear : StateM W _).run w₁ = (.ok (), w₂) ∧ Holds w₂ left ∧
      left.toList = Text.trimEnd source.toList ++ '\n' :: Marker.leftover k.moduleText.toList ∧
      (left = tidied source ↔ ¬ Marker.stop.toList <:+: k.moduleText.toList) := by
  obtain ⟨w₁, w₂, left, hrefresh, hclear, hleft, htext⟩ := run_refresh_clear h hw hstart hstop
  exact ⟨w₁, w₂, left, hrefresh, hclear, hleft, htext, eq_tidied_iff htext⟩

end Run

def library : String := "pub fn f() {}\n"

def crate : Sandbox where
  files := Std.ExtTreeMap.ofList
    [(["src"], Node.dir), (["src", "lib.rs"], Node.file library.toUTF8)]
  directory := []
  clock := 0
  tools := fun _ _ => .error .notFound
  started := []

def quoting (literal : String) : SourceContainer :=
  ⟨"", "crate", "src/lib.rs", "tests", [((TestCase.new 1).pushLiteral 0 (.str literal)).2]⟩

theorem holds_library (literal : String) :
    crate.files.read crate.directory (quoting literal).sourcePath = .ok library.toUTF8 := by
  have hpath : (quoting literal).sourcePath = "src/lib.rs" :=
    show Path.join "" "src/lib.rs" = "src/lib.rs" by decide
  rw [hpath]
  decide +kernel

theorem start_not_infix_library : ¬ Marker.start.toList <:+: library.toList :=
  Text.cut_eq_none_iff.1 (by decide)

theorem stop_not_infix_library : ¬ Marker.stop.toList <:+: library.toList :=
  Text.cut_eq_none_iff.1 (by decide)

theorem cleared_source_quoting_start :
    ¬ Marker.stop.toList <:+: (quoting Marker.start).moduleText.toList ∧
      ∃ s₁ s₂, ((quoting Marker.start).refresh : StateM Sandbox _).run crate = (.ok (), s₁) ∧
        ((quoting Marker.start).clear : StateM Sandbox _).run s₁ = (.ok (), s₂) ∧
        s₂.files.read s₂.directory (quoting Marker.start).sourcePath =
          .ok (tidied library).toUTF8 := by
  have hquote : ¬ Marker.stop.toList <:+: (quoting Marker.start).moduleText.toList := by
    rw [← Text.cut_eq_none_iff, moduleText, testModuleText, toList_unlines]
    decide +kernel
  refine ⟨hquote, ?_⟩
  obtain ⟨s₁, s₂, left, hrefresh, hclear, hleft, _, hiff⟩ :=
    cleared_source_exact (Sandbox.rewritesFile _) (holds_library _) start_not_infix_library
      stop_not_infix_library
  rw [hiff.2 hquote] at hleft
  exact ⟨s₁, s₂, hrefresh, hclear, hleft⟩

theorem not_forall_cleared_source :
    ¬ ∀ (W : Type) [Host (StateM W)] (k : SourceContainer) (Holds : W → String → Prop) (w : W)
      (source : String), Host.RewritesFile k.sourcePath Holds → Holds w source →
      ¬ Marker.start.toList <:+: source.toList → ¬ Marker.stop.toList <:+: source.toList →
        ∃ w₁ w₂, (k.refresh : StateM W _).run w = (.ok (), w₁) ∧
          (k.clear : StateM W _).run w₁ = (.ok (), w₂) ∧ Holds w₂ (tidied source) := by
  intro hall
  have hfile := Sandbox.rewritesFile (quoting Marker.stop).sourcePath
  obtain ⟨s₁, s₂, hrefresh, hclear, htidied⟩ := hall Sandbox (quoting Marker.stop) _ crate library
    hfile (holds_library _) start_not_infix_library stop_not_infix_library
  obtain ⟨t₁, t₂, left, hrefresh', hclear', hleft, htext⟩ :=
    run_refresh_clear hfile (holds_library _) start_not_infix_library stop_not_infix_library
  obtain rfl : s₁ = t₁ := congrArg Prod.snd (hrefresh.symm.trans hrefresh')
  obtain rfl : s₂ = t₂ := congrArg Prod.snd (hclear.symm.trans hclear')
  have heq : left = tidied library := by
    have hbytes := Except.ok.inj (hleft.symm.trans htidied)
    rw [String.toUTF8_eq_toByteArray, String.toUTF8_eq_toByteArray] at hbytes
    exact String.toByteArray_inj.1 hbytes
  have hfound : Text.cut Marker.stop.toList (quoting Marker.stop).moduleText.toList ≠ none := by
    rw [moduleText, testModuleText, toList_unlines]
    decide +kernel
  exact hfound (Text.cut_eq_none_iff.2 ((eq_tidied_iff htext).1 heq))

end SourceContainer
end UnitTestGen
