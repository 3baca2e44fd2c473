/-!
# Ranges of code points

A property of characters is a table of the ranges in which they have it.
-/

namespace KernelGuise

/-- The code points from the first to the last, both included. -/
abbrev CodeRange := Nat × Nat

namespace CodeRange

def cover (ranges : List CodeRange) (c : Char) : Bool :=
  ranges.any fun range => range.1 ≤ c.toNat && c.toNat ≤ range.2

end CodeRange

end KernelGuise
