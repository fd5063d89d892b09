import UnitTestGen.Binary64.Reader
import UnitTestGen.Coverage
import UnitTestGen.Exec.Error
import UnitTestGen.Json.Canonical
import UnitTestGen.Json.Printer
import UnitTestGen.Json.Reader
import UnitTestGen.Text.Blank
import UnitTestGen.Text.Search

/-! What tools print: the percentages in a coverage report, and the verdicts of a test run. -/

namespace UnitTestGen

open Text

def failedMarker : String := "test result: FAILED"

def reportEntry (report : Json) (field : String) : Option Json :=
  report.pointer? ["data", "0", "totals", field, "percent"]

def percentValue (j : Json) : Option Binary64 :=
  (match j with
    | .number (.fraction x) => some x
    | .str s => Binary64.read (trim s.toList)
    | _ => none).filter Binary64.isFinite

def reportPercent (report : Json) (field : String) : Except ExecError Binary64 :=
  match reportEntry report field with
  | none => .error (.reportMissing field)
  | some j =>
    match percentValue j with
    | some x => .ok x
    | none => .error (.reportFormat field j.compact)

theorem eq_of_reportPercent_error {report : Json} {field : String} {e : ExecError}
    (h : reportPercent report field = .error e) :
    e = .reportMissing field ∨ ∃ value, e = .reportFormat field value := by
  unfold reportPercent at h
  split at h
  · exact .inl (Except.error.inj h).symm
  · split at h
    · nomatch h
    · exact .inr ⟨_, (Except.error.inj h).symm⟩

namespace CoverageSummary

def ofReport (text : String) : Except ExecError CoverageSummary :=
  match (Json.ofText text).bind (Json.canonical Json.maxDepth) with
  | none => .error .json
  | some report => do
    let lines ← reportPercent report "lines"
    let regions ← reportPercent report "regions"
    .ok ⟨lines, regions⟩

theorem exists_of_ofReport_error {text : String} {e : ExecError} (h : ofReport text = .error e) :
    e = .json ∨ ∃ field, e = .reportMissing field ∨ ∃ value, e = .reportFormat field value := by
  unfold ofReport at h
  cases hreport : (Json.ofText text).bind (Json.canonical Json.maxDepth) with
  | none =>
    rw [hreport] at h
    exact .inl (Except.error.inj h).symm
  | some report =>
    simp only [hreport] at h
    cases hlines : reportPercent report "lines" with
    | error e' =>
      rw [hlines] at h
      exact .inr ⟨_, Except.error.inj h ▸ eq_of_reportPercent_error hlines⟩
    | ok lines =>
      cases hregions : reportPercent report "regions" with
      | error e' =>
        rw [hlines, hregions] at h
        exact .inr ⟨_, Except.error.inj h ▸ eq_of_reportPercent_error hregions⟩
      | ok regions =>
        rw [hlines, hregions] at h
        nomatch h

end CoverageSummary

def trailingId (name : List Char) : Option UInt64 := do
  let (_, digits) ← cutLast ['_'] name
  (readDigits digits).bind fun n => if n < UInt64.size then some (UInt64.ofNat n) else none

def failedTest (line : List Char) : Option UInt64 :=
  match line, words line with
  | 't' :: _, [['t', 'e', 's', 't'], name, ['.', '.', '.'], ['F', 'A', 'I', 'L', 'E', 'D']] =>
    trailingId name
  | _, _ => none

def failedTests (output : String) : List UInt64 := (lines output.toList).filterMap failedTest

def hasFailedMarker (output : String) : Bool := contains failedMarker.toList output.toList

end UnitTestGen
