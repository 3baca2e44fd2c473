/-!
# Sets of characters in patterns

The smallest parts of a pattern, and the sets of characters that stand between square brackets in it. A set is kept as it is
written: what it holds depends on flags, and plays no part in whether a matcher can be built.
-/

namespace KernelGuise.Pattern

/-- The flags that decide what the parts of a pattern stand for. -/
structure Flags where
  /-- Letters stand for both cases. -/
  caseless : Bool
  /-- Text is made of characters, not of bytes. -/
  unicode : Bool
  deriving DecidableEq, Repr

/-- The smallest parts of a pattern. -/
inductive Atom where
  /-- A character; it may have been written as the number of a byte. -/
  | letter (c : Char) (asByte : Bool)
  /-- Any character. -/
  | any
  /-- The start or the end of a line or of the text. -/
  | edge
  /-- A place where a word starts or ends, or where none does. -/
  | wordEdge
  /-- The digits, the blanks or the characters of words, or all but these. -/
  | shorthand (negated : Bool)
  /-- The characters with a property. -/
  | property
  deriving DecidableEq, Repr

/-- A set of characters as it is written. -/
inductive CharSet where
  /-- Nothing is written. -/
  | empty
  /-- A character, a shorthand or a property. -/
  | one (a : Atom)
  /-- The characters from the first to the last, both included. -/
  | range (first last : Char)
  /-- A class of ASCII characters by its name, or all but these. -/
  | named (negated : Bool)
  /-- A set in brackets, or all but its characters. -/
  | bracket (negated : Bool) (s : CharSet)
  /-- Sets side by side. -/
  | union (s t : CharSet)
  /-- Two sets with an operator between them. -/
  | combined (s t : CharSet)
  deriving Repr

namespace CharSet

/-- Sets side by side, given from the last to the first. -/
def ofItems : List CharSet → CharSet
  | [] => .empty
  | [s] => s
  | s :: t :: items => .union (ofItems (t :: items)) s

/-- How deep a set is nested. However many sets stand side by side, they count as one level, which is not counted again inside. -/
def depth (inUnion : Bool) : CharSet → Nat
  | .bracket _ s => s.depth false + 1
  | .union s t => max (s.depth true) (t.depth true) + if inUnion then 0 else 1
  | .combined s t => max (s.depth false) (t.depth false) + 1
  | _ => 0

end CharSet

end KernelGuise.Pattern
