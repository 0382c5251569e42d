/-!
# Classes of characters as ranges of code points

A character property of the Unicode standard (version 14 throughout this library) is held as the
list of its closed ranges.
-/

namespace LayeredMarks

/-- Closed ranges of code points, ascending and apart. -/
abbrev CodeRanges := List (Nat × Nat)

/-- Whether the character lies in one of the ranges. -/
def CodeRanges.contains (ranges : CodeRanges) (c : Char) : Bool :=
  ranges.any fun range => range.1 ≤ c.toNat && c.toNat ≤ range.2

end LayeredMarks
