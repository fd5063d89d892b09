import Std.Data.ExtTreeMap
import UnitTestGen.Binary64.Basic

/-! What a run reached: the least branch distance seen for each basic block, zero meaning that the
block was covered. -/

namespace UnitTestGen

/-- A basic block: the identity of its function in the crate, and its index there. -/
structure Block where
  globalId : String
  blockId : UInt64
  deriving DecidableEq

namespace Block

instance : Ord Block := ⟨compareLex (compareOn globalId) (compareOn blockId)⟩

instance : Std.TransOrd Block :=
  inferInstanceAs (Std.TransCmp (compareLex (compareOn globalId) (compareOn blockId)))

instance : Std.LawfulEqOrd Block where
  compare_self := Std.ReflCmp.compare_self
  eq_of_compare {a b} h := by
    obtain ⟨g, i⟩ := a
    obtain ⟨g', i'⟩ := b
    have h' : (compare g g').then (compare i i') = .eq := h
    rw [Ordering.then_eq_eq] at h'
    simp [Std.LawfulEqCmp.eq_of_compare h'.1, Std.LawfulEqCmp.eq_of_compare h'.2]

def text (b : Block) : String := b.globalId ++ "#" ++ toString b.blockId.toNat

end Block

abbrev Coverage := Std.ExtTreeMap Block Binary64

namespace Coverage

def empty : Coverage := ∅

/-- Records a distance; for a block seen before the smaller one counts, and of two zeros the later
one. -/
def record (cov : Coverage) (block : Block) (distance : Binary64) : Coverage :=
  cov.alter block fun
    | none => some distance
    | some d => some (d.min distance)

def isCovered (cov : Coverage) (block : Block) : Bool := cov[block]?.any (·.numEq .zero)

def coveredBlocks (cov : Coverage) : Nat := cov.toList.countP fun (_, d) => d.numEq .zero

/-- The same blocks at distances that are equal as numbers. -/
def agrees (a b : Coverage) : Bool :=
  a.size == b.size &&
    (a.toList.zip b.toList).all fun ((k, d), (k', d')) => k == k' && d.numEq d'

theorem getElem?_record (cov : Coverage) (block k : Block) (distance : Binary64) :
    (cov.record block distance)[k]? =
      if block = k then some (match cov[block]? with
        | none => distance
        | some d => d.min distance)
      else cov[k]? := by
  simp only [record, Std.ExtTreeMap.getElem?_alter, Std.compare_eq_iff_eq]
  split
  · cases cov[block]? <;> rfl
  · rfl

end Coverage

structure CoverageSummary where
  lines : Binary64
  regions : Binary64
  deriving DecidableEq

end UnitTestGen
