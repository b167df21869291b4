/-!
# Sets of code points

A set of code points is given by the list of places at which membership changes, in increasing
order: the first code point of a run of members, then the first one after it, and so on.
-/

namespace LineShell.Text

/-- Whether `n` is in the set that changes at the given places. -/
def inRuns : List Nat → Nat → Bool
  | [], _ => false
  | place :: rest, n => if n < place then false else ! inRuns rest n

end LineShell.Text
