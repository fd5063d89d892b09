import UnitTestGen.Exec.Report
import UnitTestGen.Proofs.Json.Places
import UnitTestGen.Proofs.Json.Reading

/-! Percentages that are written as whole numbers. They are turned down because they are no
fractions, but what is looked at is the number they stand for, not their text: a whole number that
fits 64 bits is an integer and turned down, while minus zero and the longer ones are numbers of the
binary format by then and pass for fractions. -/

namespace UnitTestGen

open Json

def writtenEntry (raw : Json) (field : String) : Option Json :=
  raw.lastPointer? ["data", "0", "totals", field, "percent"]

theorem exists_reportEntry {raw report w : Json} {field : String}
    (hreport : raw.canonical maxDepth = some report) (hentry : writtenEntry raw field = some w) :
    ∃ c, canonical 122 w = some c ∧ reportEntry report field = some c := by
  have halike : Alike 122 (writtenEntry raw field) (reportEntry report field) :=
    alike_pointer? hreport
  rw [hentry] at halike
  generalize reportEntry report field = entry at halike ⊢
  cases halike with
  | some hw => exact ⟨_, hw, rfl⟩

theorem reportPercent_of_fitsWord {raw report : Json} {field : String} {negative : Bool} {m : Nat}
    (hreport : raw.canonical maxDepth = some report)
    (hentry : writtenEntry raw field = some (.number (.integer negative m)))
    (hfits : FitsWord negative m) : reportPercent report field =
      .error (.reportFormat field (Json.number (.integer negative m)).compact) := by
  obtain ⟨c, hc, hfound⟩ := exists_reportEntry hreport hentry
  obtain rfl := Option.some.inj ((canonical_of_fitsWord hfits 122).symm.trans hc)
  rw [reportPercent, hfound]
  rfl

theorem exists_reportPercent_of_not_fitsWord {raw report : Json} {field : String} {negative : Bool}
    {m : Nat} (hreport : raw.canonical maxDepth = some report)
    (hentry : writtenEntry raw field = some (.number (.integer negative m)))
    (hfits : ¬ FitsWord negative m) : ∃ x, x.isFinite ∧ reportPercent report field = .ok x := by
  obtain ⟨c, hc, hfound⟩ := exists_reportEntry hreport hentry
  obtain ⟨x, hx, rfl⟩ := exists_finite_of_canonical hfits hc
  refine ⟨x, hx, ?_⟩
  rw [reportPercent, hfound]
  simp only [percentValue, Option.filter_some, if_pos hx]

theorem reportFormat_iff_fitsWord {raw report : Json} {field : String} {negative : Bool} {m : Nat}
    (hreport : raw.canonical maxDepth = some report)
    (hentry : writtenEntry raw field = some (.number (.integer negative m))) :
    (∃ value, reportPercent report field = .error (.reportFormat field value)) ↔
      FitsWord negative m := by
  constructor
  · rintro ⟨value, hvalue⟩
    by_contra hfits
    obtain ⟨x, -, hx⟩ := exists_reportPercent_of_not_fitsWord hreport hentry hfits
    rw [hx] at hvalue
    cases hvalue
  · exact fun hfits => ⟨_, reportPercent_of_fitsWord hreport hentry hfits⟩

def reportOf (lines regions : Json) : Json :=
  .obj [("data", .arr [.obj [("totals",
    .obj [("lines", .obj [("percent", lines)]), ("regions", .obj [("percent", regions)])])]])]

theorem plain_reportOf {lines regions : Json} (hlines : lines.Plain) (hregions : regions.Plain) :
    (reportOf lines regions).Plain := by
  have hdata {totals : Json} (h : totals.Plain) : (Json.arr [.obj [("totals", totals)]]).Plain :=
    .arr fun v hv => List.mem_singleton.1 hv ▸ .choice h
  refine .choice (hdata (.obj fun m hm => ?_))
  rcases List.mem_pair.1 hm with rfl | rfl
  · exact .choice hlines
  · exact .choice hregions

theorem canonical_reportOf {lines regions lines' regions' : Json}
    (hlines : canonical 122 lines = some lines') (hregions : canonical 122 regions = some regions') :
    (reportOf lines regions).canonical maxDepth = some (reportOf lines' regions') := by
  simp only [reportOf, maxDepth, canonical, List.mapM_cons, List.mapM_nil, hlines, hregions]
  rfl

namespace CoverageSummary

def Rejects (text field : String) : Prop :=
  ∃ value, ofReport text = .error (.reportFormat field value)

theorem ofReport_eq {text : String} {raw report : Json} (hraw : Json.ofText text = some raw)
    (hreport : raw.canonical maxDepth = some report) :
    ofReport text = (reportPercent report "lines" >>= fun lines =>
      reportPercent report "regions" >>= fun regions => .ok ⟨lines, regions⟩) := by
  rw [ofReport, hraw, Option.bind_some, hreport]

theorem rejects_lines_iff {text : String} {raw report : Json} (hraw : Json.ofText text = some raw)
    (hreport : raw.canonical maxDepth = some report) :
    Rejects text "lines" ↔
      ∃ value, reportPercent report "lines" = .error (.reportFormat "lines" value) := by
  rw [Rejects, ofReport_eq hraw hreport]
  cases hlines : reportPercent report "lines" with
  | error e => simp only [bind, Except.bind, Except.error.injEq]
  | ok lines =>
    refine ⟨fun ⟨value, h⟩ => ?_, nofun⟩
    -- the other percentage is turned down under its own name
    cases hregions : reportPercent report "regions" with
    | error e =>
      rw [hregions] at h
      obtain rfl := Except.error.inj h
      rcases eq_of_reportPercent_error hregions with h | ⟨_, h⟩
      · cases h
      · exact absurd (ExecError.reportFormat.inj h).1 (by decide)
    | ok regions =>
      rw [hregions] at h
      cases h

theorem rejects_regions_iff {text : String} {raw report : Json} {x : Binary64}
    (hraw : Json.ofText text = some raw) (hreport : raw.canonical maxDepth = some report)
    (hlines : reportPercent report "lines" = .ok x) :
    Rejects text "regions" ↔
      ∃ value, reportPercent report "regions" = .error (.reportFormat "regions" value) := by
  rw [Rejects, ofReport_eq hraw hreport, hlines]
  cases reportPercent report "regions" with
  | error e => simp only [bind, Except.bind, Except.error.injEq]
  | ok regions => exact ⟨nofun, nofun⟩

/-- A percentage of lines that is written as a whole number is turned down exactly if the number fits
64 bits, and so is one of regions behind an acceptable one of lines. -/
theorem integer_percent_exact {text : String} {raw report : Json} (hraw : Json.ofText text = some raw)
    (hreport : raw.canonical maxDepth = some report) (negative : Bool) (m : Nat) :
    (writtenEntry raw "lines" = some (.number (.integer negative m)) →
      (Rejects text "lines" ↔ FitsWord negative m)) ∧
    ∀ x, reportPercent report "lines" = .ok x →
      writtenEntry raw "regions" = some (.number (.integer negative m)) →
      (Rejects text "regions" ↔ FitsWord negative m) := by
  constructor
  · intro hentry
    rw [rejects_lines_iff hraw hreport, reportFormat_iff_fitsWord hreport hentry]
  · intro x hlines hentry
    rw [rejects_regions_iff hraw hreport hlines, reportFormat_iff_fitsWord hreport hentry]

theorem hundred_rejected_minus_zero_accepted :
    Rejects (reportOf (.number (.integer false 100)) (.str "60.5")).compact "lines" ∧
    ¬ Rejects (reportOf (.str "60.5") (.number (.integer true 0))).compact "regions" := by
  have hhundred := integer_percent_exact
    (ofText_compact (plain_reportOf (.integer false 100) (.str "60.5")))
    (canonical_reportOf (canonical_of_fitsWord (by decide) 122) rfl) false 100
  have hzero := integer_percent_exact
    (ofText_compact (plain_reportOf (.str "60.5") (.integer true 0)))
    (canonical_reportOf rfl rfl) true 0
  constructor
  · exact (hhundred.1 rfl).2 (by decide)
  · exact mt (hzero.2 (.ofRatio false 121 2) (by decide +kernel) rfl).1 (by decide)

theorem not_forall_integer_rejected :
    ¬ ∀ text raw report negative m, Json.ofText text = some raw →
      raw.canonical maxDepth = some report →
      writtenEntry raw "lines" = some (.number (.integer negative m)) → Rejects text "lines" := by
  intro h
  have hvalue : (canonical 122 (.number (.integer false (2 ^ 64)))).isSome := by decide +kernel
  obtain ⟨c, hc⟩ := Option.isSome_iff_exists.1 hvalue
  have hraw := ofText_compact (plain_reportOf (.integer false (2 ^ 64)) (.str "60.5"))
  have hregions : canonical 122 (.str "60.5") = some (.str "60.5") := rfl
  have hreport := canonical_reportOf hc hregions
  have hrejects := h _ _ _ _ _ hraw hreport rfl
  rw [rejects_lines_iff hraw hreport, reportFormat_iff_fitsWord hreport rfl] at hrejects
  exact absurd hrejects (by decide)

end CoverageSummary
end UnitTestGen
