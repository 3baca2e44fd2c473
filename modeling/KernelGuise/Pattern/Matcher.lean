import KernelGuise.Pattern.Reader

/-!
# Matchers for patterns

Which patterns a matcher can be built for. It reads text in UTF-8 byte by byte and has no tables of Unicode: so it knows neither
the cases of letters nor the properties of characters unless text is taken as bytes, and a pattern for bytes may not match what
is no character. Where words start and end it can tell among bytes only.
-/

namespace KernelGuise.Pattern

inductive MatcherError where
  /-- The text is no pattern, or what it matches cannot be told without tables. -/
  | noMatcher
  /-- The pattern asks where words start or end among characters. -/
  | wordEdge
  deriving DecidableEq, Repr

/-- The text of an error. -/
def MatcherError.message : MatcherError → String
  | .noMatcher => "error building NFA"
  | .wordEdge => "unsupported regex feature for DFAs: cannot build DFAs for regexes with Unicode word boundaries; switch to ASCII " ++
      "word boundaries, or heuristically enable Unicode word boundaries or use a different regex engine"

/-- A character in a set: a set of bytes holds those of ASCII only. -/
def canHold (f : Flags) (c : Char) : Bool := if f.unicode then !f.caseless else c.toNat < 0x80

def Atom.isMatchable (f : Flags) : Atom → Bool
  | .letter c asByte => if f.unicode then !f.caseless else !asByte || c.toNat < 0x80
  | .any => f.unicode
  | .edge => true
  | .wordEdge => true
  | .shorthand negated => !f.unicode && !negated
  | .property => false

def CharSet.isMatchable (f : Flags) : CharSet → Bool
  | .empty => true
  | .one (.letter c _) => canHold f c
  | .one a => a.isMatchable f
  | .range first last => canHold f first && canHold f last
  | .named negated => if f.unicode then !f.caseless else !negated
  | .bracket negated s => (f.unicode || !negated) && s.isMatchable f
  | .union s t => s.isMatchable f && t.isMatchable f
  | .combined s t => s.isMatchable f && t.isMatchable f

def Leaf.isMatchable (f : Flags) : Leaf → Bool
  | .atom a => a.isMatchable f
  | .set s => s.isMatchable f

/-- A leaf that asks where words start or end among characters. -/
def Leaf.asksForWords (f : Flags) : Leaf → Bool
  | .atom .wordEdge => f.unicode
  | _ => false

def Flags.initial : Flags := ⟨false, true⟩

def maxDepth : Nat := 250

def fault? (p : Pattern) : Option MatcherError :=
  let leaves := (p.leaves .initial).1
  if maxDepth < p.depth .other || !(leaves.all fun (f, l) => l.isMatchable f) then some .noMatcher
  else if leaves.any fun (f, l) => l.asksForWords f then some .wordEdge
  else none

/-- What stands against a matcher for a text, if anything does. -/
def error? (cs : List Char) : Option MatcherError :=
  match read? cs with
  | none => some .noMatcher
  | some p => p.fault?

end KernelGuise.Pattern
