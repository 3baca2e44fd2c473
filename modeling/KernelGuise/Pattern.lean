import KernelGuise.Pattern.CharSet

/-!
# Patterns

Regular expressions as syntax trees. What a pattern matches plays no part here: the tree says what it is made of, how deep it is
nested, and which flags hold where.
-/

namespace KernelGuise

namespace Pattern

/-- A change of flags: those that are named get a value, the others stay. -/
structure FlagChange where
  caseless : Option Bool
  unicode : Option Bool
  /-- Whether blanks and comments stand for nothing in the pattern's text. -/
  spaced : Option Bool
  deriving DecidableEq, Repr

/-- The change that changes nothing. -/
def FlagChange.nothing : FlagChange := ⟨none, none, none⟩

def Flags.apply (f : Flags) (c : FlagChange) : Flags := ⟨c.caseless.getD f.caseless, c.unicode.getD f.unicode⟩

/-- A part of a pattern that holds no other pattern. -/
inductive Leaf where
  | atom (a : Atom)
  | set (s : CharSet)
  deriving Repr

end Pattern

open Pattern in
inductive Pattern where
  /-- Nothing is written. -/
  | empty
  /-- A change of flags for all that follows in the same group. -/
  | change (c : FlagChange)
  | leaf (l : Leaf)
  /-- A pattern some number of times. -/
  | repeated (p : Pattern)
  /-- A pattern in parentheses, with a change of flags inside. -/
  | group (c : FlagChange) (p : Pattern)
  /-- One pattern after another. -/
  | seq (p q : Pattern)
  /-- One pattern or another. -/
  | either (p q : Pattern)
  deriving Repr

namespace Pattern

/-- Patterns one after another, given from the last to the first. -/
def ofItems : List Pattern → Pattern
  | [] => .empty
  | [p] => p
  | p :: q :: items => .seq (ofItems (q :: items)) p

/-- The choice between patterns, given from the last to the first. -/
def ofBranches : List Pattern → Pattern
  | [] => .empty
  | [p] => p
  | p :: q :: branches => .either (ofBranches (q :: branches)) p

/-- What a pattern stands directly in: a sequence, a choice, or something else. -/
inductive Joint where
  | sequence
  | choice
  | other
  deriving DecidableEq

/-- How deep a pattern is nested. A sequence counts as one level however long it is, and so does a choice. -/
def depth (within : Joint) : Pattern → Nat
  | .repeated p => p.depth .other + 1
  | .group _ p => p.depth .other + 1
  | .seq p q => max (p.depth .sequence) (q.depth .sequence) + if within = .sequence then 0 else 1
  | .either p q => max (p.depth .choice) (q.depth .choice) + if within = .choice then 0 else 1
  | .leaf (.set s) => s.depth false
  | _ => 0

/-- The leaves of a pattern in order, each with the flags that hold at it, and the flags that hold after the pattern. -/
def leaves (f : Flags) : Pattern → List (Flags × Leaf) × Flags
  | .empty => ([], f)
  | .change c => ([], f.apply c)
  | .leaf l => ([(f, l)], f)
  | .repeated p => p.leaves f
  | .group c p => ((p.leaves (f.apply c)).1, f)
  | .seq p q => ((p.leaves f).1 ++ (q.leaves (p.leaves f).2).1, (q.leaves (p.leaves f).2).2)
  | .either p q => ((p.leaves f).1 ++ (q.leaves (p.leaves f).2).1, (q.leaves (p.leaves f).2).2)

end Pattern

end KernelGuise
