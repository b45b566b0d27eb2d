/-!
# Sets of characters given by their boundaries

A set of code points is stored as the increasing list of the places where membership changes: it
holds the points with an odd number of boundaries at or below them.
-/

namespace RequestPipeline.Text

/-- The boundaries of a set of code points, in increasing order. -/
abbrev Boundaries := Array Nat

namespace Boundaries

/-- The number of boundaries at or below `c` among the first `n` entries of the half-open index
range from `low`, found by bisection. -/
def rank (b : Boundaries) (c : Nat) : (fuel low high : Nat) → Nat
  | 0, low, _ => low
  | fuel + 1, low, high =>
    if low < high then
      let middle := (low + high) / 2
      if b.getD middle 0 ≤ c then rank b c fuel (middle + 1) high else rank b c fuel low middle
    else low

/-- Whether the set holds the character. -/
def holds (b : Boundaries) (c : Char) : Bool :=
  rank b c.toNat (b.size + 1) 0 b.size % 2 == 1

end Boundaries

end RequestPipeline.Text
