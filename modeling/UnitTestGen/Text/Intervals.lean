/-! Sets of code points given by their boundaries: the increasing list of the points where
membership changes, the first of them being the first member. -/

namespace UnitTestGen.Text

/-- Membership in the set with the given boundaries: an odd number of them lie at or below the
point. -/
def inBounds (bounds : List Nat) (n : Nat) : Bool :=
  (bounds.takeWhile (· ≤ n)).length % 2 == 1

end UnitTestGen.Text
