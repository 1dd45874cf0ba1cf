/-!
# Paths

A path leads from a value to one of its parts: by keys into objects, by positions into lists.
-/

namespace Conform

/-- A step into a value. -/
inductive Segment where
  /-- To the value under a key. -/
  | key (name : String)
  /-- To the item at a position, counted from zero. -/
  | index (position : Nat)
  deriving DecidableEq, Repr

/-- The steps from a value to one of its parts. -/
abbrev Path := List Segment

/-- A step as text. -/
def Segment.text : Segment → String
  | key k => k
  | index i => toString i

end Conform
