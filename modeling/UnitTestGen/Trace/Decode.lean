import UnitTestGen.Trace.Fact

/-! The coverage of each test that a sequence of trace lines reports. -/

namespace UnitTestGen

abbrev Traces := Std.ExtTreeMap UInt64 Coverage

namespace Traces

def add (traces : Traces) (f : TraceFact) : Traces :=
  traces.alter f.testId fun cov => some ((cov.getD ∅).record f.block f.distance)

/-- The traces of all facts among the lines, or the error of the first line that has one. -/
def ofLines (lines : List String) : Except TraceError Traces :=
  (lines.mapM TraceFact.ofLine).map fun facts => (facts.filterMap id).foldl add ∅

end Traces

def textLines (text : String) : List String := (Text.lines text.toList).map String.ofList

def Traces.ofText (text : String) : Except TraceError Traces :=
  Traces.ofLines (textLines text)

end UnitTestGen
