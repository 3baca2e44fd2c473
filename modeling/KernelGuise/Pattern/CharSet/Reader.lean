import KernelGuise.Pattern.Escape

/-!
# Sets of characters as text

A set is written in square brackets, with a caret first if it is negated. Sets inside it stand in brackets of their own, and
between two of them may stand an operator: `&&` for what both hold, `--` for what only the first holds, `~~` for what just one
holds.
-/

namespace KernelGuise.Pattern.CharSet

/-- A set whose closing bracket has not come yet: whether it is negated, whether only hyphens have come so far, what stands before
its last operator, and what has come since, from the last to the first. -/
structure Pending where
  negated : Bool
  atStart : Bool
  before : Option CharSet
  items : List CharSet

namespace Pending

def add (p : Pending) (s : CharSet) : Pending := { p with items := s :: p.items }

def addChar (p : Pending) (c : Char) : Pending := p.add (.one (.letter c false))

/-- All that has come. Operators are taken from left to right. -/
def set (p : Pending) : CharSet :=
  match p.before with
  | none => ofItems p.items
  | some s => .combined s (ofItems p.items)

def operate (p : Pending) : Pending := { p with before := some p.set, items := [] }

def close (p : Pending) : CharSet := .bracket p.negated p.set

def start (spaced : Bool) (cs : List Char) : Pending × List Char :=
  match skip spaced cs with
  | '^' :: cs => (⟨true, true, none, []⟩, cs)
  | cs => (⟨false, true, none, []⟩, cs)

end Pending

def names : List String :=
  ["alnum", "alpha", "ascii", "blank", "cntrl", "digit", "graph", "lower", "print", "punct", "space", "upper", "word", "xdigit"]

/-- A class by its name between colons, after an opening bracket. A text that is no such class is read as a set like others. -/
def named? : List Char → Option (CharSet × List Char)
  | ':' :: cs =>
    let (negated, cs) := match cs with
      | '^' :: cs => (true, cs)
      | cs => (false, cs)
    let name := cs.takeWhile (· != ':')
    match cs.drop name.length with
    | ':' :: ']' :: cs => if String.ofList name ∈ names then some (.named negated, cs) else none
    | _ => none
  | _ => none

/-- One end of a range, or an item alone. -/
def readEnd (spaced : Bool) : List Char → Option (Atom × List Char)
  | [] => none
  | '\\' :: cs => readEscape spaced cs
  | c :: cs => some (.letter c false, cs)

/-- What may stand alone in a set: edges have no place there. -/
def ofAtom? : Atom → Option CharSet
  | .letter c asByte => some (.one (.letter c asByte))
  | .shorthand negated => some (.one (.shorthand negated))
  | .property => some (.one .property)
  | _ => none

/-- The range between two characters in order. -/
def ofEnds? : Atom → Atom → Option CharSet
  | .letter first _, .letter last _ => if first ≤ last then some (.range first last) else none
  | _, _ => none

/-- An item or a range. A hyphen before a closing bracket or another hyphen makes no range. -/
def readItem (spaced : Bool) (cs : List Char) : Option (CharSet × List Char) := do
  let (first, cs) ← readEnd spaced cs
  match skip spaced cs with
  | [] => none
  | '-' :: cs =>
    if ahead spaced cs = some ']' ∨ ahead spaced cs = some '-' then
      return (← ofAtom? first, '-' :: cs)
    else
      let (last, cs) ← readEnd spaced (skip spaced cs)
      return (← ofEnds? first last, cs)
  | cs => return (← ofAtom? first, cs)

/-- The rest of a set inside other sets, and what follows the outermost of them. Hyphens at the start of a set stand for
themselves, and so does a closing bracket that comes first of all. -/
def readRest (spaced : Bool) : Nat → Pending → List Pending → List Char → Option (CharSet × List Char)
  | 0, _, _, _ => none
  | fuel + 1, p, outer, cs =>
    match skip spaced cs with
    | [] => none
    | c :: cs =>
      if p.atStart && c == '-' then readRest spaced fuel (p.addChar c) outer cs
      else if p.atStart && p.items.isEmpty && c == ']' then
        readRest spaced fuel { p.addChar c with atStart := false } outer cs
      else
        let p := { p with atStart := false }
        match c, cs with
        | '[', cs =>
          match named? cs with
          | some (s, cs) => readRest spaced fuel (p.add s) outer cs
          | none =>
            let (inner, cs) := Pending.start spaced cs
            readRest spaced fuel inner (p :: outer) cs
        | ']', cs =>
          match outer with
          | [] => some (p.close, cs)
          | q :: outer => readRest spaced fuel (q.add p.close) outer cs
        | '&', '&' :: cs => readRest spaced fuel p.operate outer cs
        | '-', '-' :: cs => readRest spaced fuel p.operate outer cs
        | '~', '~' :: cs => readRest spaced fuel p.operate outer cs
        | c, cs => (readItem spaced (c :: cs)).bind fun (s, cs) => readRest spaced fuel (p.add s) outer cs

/-- A set, after its opening bracket. Each character takes one step at most. -/
def read (spaced : Bool) (cs : List Char) : Option (CharSet × List Char) :=
  let (p, cs) := Pending.start spaced cs
  readRest spaced (cs.length + 1) p [] cs

end KernelGuise.Pattern.CharSet
