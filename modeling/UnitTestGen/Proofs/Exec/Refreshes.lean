import UnitTestGen.Proofs.Exec.GeneratedBlock

/-! Populations written into one file one after the other. What a refresh leaves in the file is, up
to the blanks at its end, read by the next one as the source that was there before the first, and
these blanks are dropped anyway. So the refreshes leave what the last of them alone would have left,
with one generated block in it. -/

namespace UnitTestGen

namespace Marker

theorem start_not_infix_stop : ¬ start.toList <:+: stop.toList :=
  Text.cut_eq_none_iff.1 (by decide)

section Place

variable {source generated : List Char} (hstart : ¬ start.toList <:+: source)
  (hstop : ¬ stop.toList <:+: source)

include hstart hstop in
theorem place_place (hg : ∃ t, generated = t ++ ['\n']) (hgen : ¬ stop.toList <:+: generated)
    (generated' : List Char) :
    place (place source generated) generated' = place source generated' := by
  have hblank : ∀ c ∈ ['\n'], Text.isBlank c := by
    intro c hc
    obtain rfl : c = '\n' := by simpa using hc
    decide
  have hstrip : strip (place source generated) = Text.trimEnd source ++ ['\n'] := by
    rw [strip_place hstart hstop hg, leftover_eq_nil_iff.2 hgen]
  have htrim : Text.trimEnd (strip (place source generated)) = Text.trimEnd (strip source) := by
    rw [hstrip, Text.trimEnd_append_blank hblank, Text.trimEnd_trimEnd,
      strip_of_not_infix_start hstart]
  unfold place at htrim ⊢
  rw [htrim]

include hstart in
theorem exists_place_eq (hg : ∃ t, generated = t ++ ['\n']) : ∃ t, t <:+: generated ∧
    place source generated = Text.trimEnd source ++ '\n' :: ([] ++ '\n' :: (start.toList ++ '\n' ::
      (t ++ '\n' :: (stop.toList ++ '\n' :: [])))) := by
  obtain ⟨t, rfl⟩ := hg
  refine ⟨t, (List.prefix_append t ['\n']).isInfix, ?_⟩
  rw [place_eq hstart]
  simp

include hstart in
theorem occursOnce_start_place (hg : ∃ t, generated = t ++ ['\n'])
    (hgen : ¬ start.toList <:+: generated) :
    Text.OccursOnce start.toList (place source generated) := by
  have hnl := newline_notMem_start
  have hne := start_ne_nil
  have hnil : ¬ start.toList <:+: [] := fun h => hne (List.infix_nil.1 h)
  obtain ⟨t, ht, hplace⟩ := exists_place_eq hstart hg
  have hrest : ¬ start.toList <:+: t ++ '\n' :: (stop.toList ++ '\n' :: []) := by
    rw [Text.infix_append_cons_iff hnl hne, Text.infix_append_cons_iff hnl hne, not_or, not_or]
    exact ⟨fun h => hgen (h.trans ht), start_not_infix_stop, hnil⟩
  have htrim : ¬ start.toList <:+: Text.trimEnd source := fun h =>
    hstart (h.trans (Text.trimEnd_prefix source).isInfix)
  rw [hplace]
  apply Text.OccursOnce.cons_append hnl hne htrim
  apply Text.OccursOnce.cons_append hnl hne hnil
  exact (Text.occursOnce_self hne).append_cons hnl hne hrest

include hstart hstop in
theorem occursOnce_stop_place (hg : ∃ t, generated = t ++ ['\n'])
    (hgen : ¬ stop.toList <:+: generated) :
    Text.OccursOnce stop.toList (place source generated) := by
  have hnl := newline_notMem_stop
  have hne := stop_ne_nil
  have hnil : ¬ stop.toList <:+: [] := fun h => hne (List.infix_nil.1 h)
  obtain ⟨t, ht, hplace⟩ := exists_place_eq hstart hg
  have htrim : ¬ stop.toList <:+: Text.trimEnd source := fun h =>
    hstop (h.trans (Text.trimEnd_prefix source).isInfix)
  rw [hplace]
  apply Text.OccursOnce.cons_append hnl hne htrim
  apply Text.OccursOnce.cons_append hnl hne hnil
  apply Text.OccursOnce.cons_append hnl hne stop_not_infix_start
  apply Text.OccursOnce.cons_append hnl hne fun h => hgen (h.trans ht)
  exact (Text.occursOnce_self hne).append_cons hnl hne hnil

end Place
end Marker

namespace SourceContainer

def holding (k : SourceContainer) (tests : List TestCase) : SourceContainer :=
  { k with chromosomes := tests }

def refreshAll {m : Type → Type} [Monad m] [Host m] (k : SourceContainer) :
    List (List TestCase) → m (Except ExecError Unit)
  | [] => pure (.ok ())
  | tests :: rest => do
    match ← (k.holding tests).refresh with
    | .error e => pure (.error e)
    | .ok () => refreshAll k rest

theorem exists_moduleText_eq (k : SourceContainer) : ∃ t, k.moduleText.toList = t ++ ['\n'] :=
  exists_testModuleText_eq _ _

variable {W : Type} [Host (StateM W)] {k : SourceContainer} {Holds : W → String → Prop} {w : W}
  {source : String}

theorem toList_refreshed (k : SourceContainer) (source : String) :
    (k.refreshed source).toList = Marker.place source.toList k.moduleText.toList :=
  String.toList_ofList

section Run

variable (h : Host.RewritesFile k.sourcePath Holds)
  (hstart : ¬ Marker.start.toList <:+: source.toList)
  (hstop : ¬ Marker.stop.toList <:+: source.toList)
include h hstart hstop

theorem run_refreshAll {held : String} (hw : Holds w held)
    (hheld : ∀ generated, Marker.place held.toList generated =
      Marker.place source.toList generated)
    (earlier : List (List TestCase)) (last : List TestCase)
    (hearlier : ∀ tests ∈ earlier,
      ¬ Marker.stop.toList <:+: (k.holding tests).moduleText.toList) :
    ∃ w', (k.refreshAll (earlier ++ [last]) : StateM W _).run w = (.ok (), w') ∧
      Holds w' ((k.holding last).refreshed source) := by
  -- whatever has been written so far, the next block is placed as in the first source
  have hplaced : ∀ tests {text : String}, (∀ generated, Marker.place text.toList generated =
      Marker.place source.toList generated) →
      (k.holding tests).refreshed text = (k.holding tests).refreshed source := by
    intro tests text htext
    rw [← String.toList_inj, toList_refreshed, toList_refreshed, htext]
  induction earlier generalizing w held with
  | nil =>
    obtain ⟨w₁, hrefresh, hw₁⟩ := run_refresh (k := k.holding last) h hw
    rw [hplaced last hheld] at hw₁
    refine ⟨w₁, ?_, hw₁⟩
    rw [List.nil_append, refreshAll, run_bind_of_eq hrefresh]
    rfl
  | cons tests earlier ih =>
    obtain ⟨w₁, hrefresh, hw₁⟩ := run_refresh (k := k.holding tests) h hw
    rw [hplaced tests hheld] at hw₁
    have hnext : ∀ generated, Marker.place ((k.holding tests).refreshed source).toList generated =
        Marker.place source.toList generated := by
      intro generated
      rw [toList_refreshed]
      exact Marker.place_place hstart hstop (exists_moduleText_eq _)
        (hearlier tests List.mem_cons_self) generated
    obtain ⟨w₂, hrest, hw₂⟩ := ih hw₁ hnext fun tests' ht =>
      hearlier tests' (List.mem_cons_of_mem _ ht)
    refine ⟨w₂, ?_, hw₂⟩
    rw [List.cons_append, refreshAll, run_bind_of_eq hrefresh]
    exact hrest

/-- Refreshes with populations that show no marker leave what the last of them alone leaves on the
first source: that source without its blanks at the end, and one block with the last population. -/
theorem refreshes_exact (hw : Holds w source) (earlier : List (List TestCase))
    (last : List TestCase)
    (hmodules : ∀ tests ∈ earlier ++ [last],
      ¬ Marker.start.toList <:+: (k.holding tests).moduleText.toList ∧
        ¬ Marker.stop.toList <:+: (k.holding tests).moduleText.toList) :
    ∃ w₁ w₂ text, (k.refreshAll (earlier ++ [last]) : StateM W _).run w = (.ok (), w₁) ∧
      Holds w₁ text ∧ ((k.holding last).refresh : StateM W _).run w = (.ok (), w₂) ∧
      Holds w₂ text ∧
      text.toList = Text.trimEnd source.toList ++ "\n\n".toList ++ Marker.start.toList ++
        '\n' :: (k.holding last).moduleText.toList ++ Marker.stop.toList ++ ['\n'] ∧
      Text.OccursOnce Marker.start.toList text.toList ∧
      Text.OccursOnce Marker.stop.toList text.toList := by
  obtain ⟨hlast, hlast'⟩ := hmodules last (by simp)
  obtain ⟨w₁, hall, hw₁⟩ := run_refreshAll h hstart hstop hw (fun _ => rfl) earlier last
    fun tests ht => (hmodules tests (List.mem_append_left _ ht)).2
  obtain ⟨w₂, hone, hw₂⟩ := run_refresh (k := k.holding last) h hw
  refine ⟨w₁, w₂, _, hall, hw₁, hone, hw₂, ?_⟩
  rw [toList_refreshed]
  refine ⟨?_, Marker.occursOnce_start_place hstart (exists_moduleText_eq _) hlast,
    Marker.occursOnce_stop_place hstart hstop (exists_moduleText_eq _) hlast'⟩
  rw [Marker.place, Marker.strip_of_not_infix_start hstart]

end Run

def quotingHalf : SourceContainer := quoting "// rusty-unit: generated tests"

theorem refreshed_twice_quotingHalf :
    (∀ tests ∈ [quotingHalf.chromosomes] ++ [[]],
      ¬ Marker.start.toList <:+: (quotingHalf.holding tests).moduleText.toList ∧
        ¬ Marker.stop.toList <:+: (quotingHalf.holding tests).moduleText.toList) ∧
      ∃ s₁ s₂ text, (quotingHalf.refreshAll ([quotingHalf.chromosomes] ++ [[]]) :
          StateM Sandbox _).run crate = (.ok (), s₁) ∧
        s₁.files.read s₁.directory quotingHalf.sourcePath = .ok (String.toUTF8 text) ∧
        ((quotingHalf.holding []).refresh : StateM Sandbox _).run crate = (.ok (), s₂) ∧
        s₂.files.read s₂.directory quotingHalf.sourcePath = .ok (String.toUTF8 text) ∧
        Text.OccursOnce Marker.start.toList text.toList := by
  have hmodules : ∀ tests ∈ [quotingHalf.chromosomes] ++ [[]],
      ¬ Marker.start.toList <:+: (quotingHalf.holding tests).moduleText.toList ∧
        ¬ Marker.stop.toList <:+: (quotingHalf.holding tests).moduleText.toList := by
    simp only [← Text.cut_eq_none_iff, moduleText, testModuleText, toList_unlines]
    decide +kernel
  obtain ⟨s₁, s₂, text, hall, hs₁, hone, hs₂, _, honce, _⟩ :=
    refreshes_exact (Sandbox.rewritesFile _) start_not_infix_library stop_not_infix_library
      (holds_library _) [quotingHalf.chromosomes] [] hmodules
  exact ⟨hmodules, s₁, s₂, text, hall, hs₁, hone, hs₂, honce⟩

end SourceContainer
end UnitTestGen
