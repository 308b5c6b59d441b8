/-!
# Sets of code points

The properties of the Unicode Character Database that the library consults are sets of code
points. A set is given by its maximal runs of consecutive code points, in rising order, and
each property is one such value in a module of its own.
-/

namespace FunctionObjects.Text

/-- A set of code points: the runs of consecutive members, each by its first and its last. -/
structure CodePoints : Type where
  runs : List (Nat × Nat)

namespace CodePoints

/-- A character is in the set iff some run holds its code point. -/
def contains (set : CodePoints) (c : Char) : Bool :=
  set.runs.any fun run => decide (run.1 ≤ c.toNat) && decide (c.toNat ≤ run.2)

end CodePoints

end FunctionObjects.Text
