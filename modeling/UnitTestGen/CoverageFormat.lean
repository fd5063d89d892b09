import UnitTestGen.Coverage
import UnitTestGen.Json.Decode
import UnitTestGen.Json.Reader

/-! Blocks and coverage summaries as JSON. -/

namespace UnitTestGen

namespace Block

def fieldNames : List String := ["global_id", "block_id"]

def toJson (b : Block) : Json :=
  .obj [("global_id", .str b.globalId), ("block_id", .ofNat b.blockId.toNat)]

open Json in
def ofJson (j : Json) : Option Block := do
  let field ← fields? fieldNames j
  let globalId ← required asString (field "global_id")
  let blockId ← required asUInt64 (field "block_id")
  some { globalId, blockId }

def ofText (text : String) : Option Block := (Json.ofText text).bind ofJson

end Block

namespace CoverageSummary

def fieldNames : List String := ["line_coverage", "region_coverage"]

def toJson (c : CoverageSummary) : Json :=
  .obj [("line_coverage", .ofFloat c.lines), ("region_coverage", .ofFloat c.regions)]

open Json in
def ofJson (j : Json) : Option CoverageSummary := do
  let field ← fields? fieldNames j
  let lines ← required asFloat (field "line_coverage")
  let regions ← required asFloat (field "region_coverage")
  some { lines, regions }

def ofText (text : String) : Option CoverageSummary := (Json.ofText text).bind ofJson

end CoverageSummary
end UnitTestGen
