import KernelGuise.Pattern
import KernelGuise.Pattern.CharSet.Reader
import KernelGuise.Text.Alphanumeric

/-!
# Patterns as text

A pattern is read from left to right, with the groups that are open kept on a stack. A text is no pattern if a group or a set is
left open or closed twice, if something is repeated that is not there, if an escape or a flag is unknown, or if two groups have
one name.
-/

namespace KernelGuise.Pattern

/-- A change of flags from its letters: those after a hyphen are turned off. No letter comes twice, and a hyphen is not the
last. -/
def FlagChange.read? (word : List Char) : Option FlagChange :=
  let on := word.takeWhile (· != '-')
  let value (flag : Char) : Option Bool := if flag ∈ on then some true else if flag ∈ word then some false else none
  if word.eraseDups = word ∧ word.getLast? ≠ some '-' ∧ word.all ['-', 'i', 'm', 's', 'U', 'u', 'R', 'x'].contains then
    some ⟨value 'i', value 'u', value 'x'⟩
  else none

/-- A name of a group: a letter or a low line, and then also numbers, points and brackets. -/
def isName : List Char → Bool
  | [] => false
  | c :: cs => (c == '_' || Alphanumeric.isLetter c) &&
      cs.all fun c => c == '_' || c == '.' || c == '[' || c == ']' || Alphanumeric.isAlphanumeric c

/-- A group whose closing parenthesis has not come yet: its change of flags, and what came before it outside. -/
structure Outside where
  change : FlagChange
  spaced : Bool
  branches : List Pattern
  items : List Pattern

/-- A pattern as far as it has been read: whether blanks stand for nothing, the names of groups, the branches of the innermost
group before the last bar and the items since then, both from the last to the first, and what is outside that group. -/
structure Reading where
  spaced : Bool
  names : List (List Char)
  branches : List Pattern
  items : List Pattern
  outer : List Outside

namespace Reading

def start : Reading := ⟨false, [], [], [], []⟩

def add (r : Reading) (p : Pattern) : Reading := { r with items := p :: r.items }

def body (r : Reading) : Pattern := ofBranches (ofItems r.items :: r.branches)

def bar (r : Reading) : Reading := { r with branches := ofItems r.items :: r.branches, items := [] }

def enter (r : Reading) (c : FlagChange) : Reading :=
  { r with
    spaced := c.spaced.getD r.spaced
    branches := []
    items := []
    outer := ⟨c, r.spaced, r.branches, r.items⟩ :: r.outer }

/-- A group ends, and with it what its flags say about blanks. -/
def leave (r : Reading) : Option Reading :=
  match r.outer with
  | [] => none
  | o :: outer => some ⟨o.spaced, r.names, o.branches, .group o.change r.body :: o.items, outer⟩

/-- The last item is repeated. A change of flags is nothing to repeat. -/
def again (r : Reading) : Option Reading :=
  match r.items with
  | [] => none
  | .change _ :: _ => none
  | p :: items => some { r with items := .repeated p :: items }

def enterNamed (r : Reading) (cs : List Char) : Option (Reading × List Char) :=
  let name := cs.takeWhile (· != '>')
  match cs.drop name.length with
  | '>' :: cs => if isName name ∧ name ∉ r.names then some ({ r with names := name :: r.names }.enter .nothing, cs) else none
  | _ => none

/-- A group with flags, or flags for the rest of this group, from the flags on. -/
def enterFlagged (r : Reading) (cs : List Char) : Option (Reading × List Char) :=
  let word := cs.takeWhile fun c => c != ':' && c != ')'
  (FlagChange.read? word).bind fun c =>
    match cs.drop word.length with
    | ':' :: cs => some (r.enter c, cs)
    | ')' :: cs => if word = [] then none else some ({ r.add (.change c) with spaced := c.spaced.getD r.spaced }, cs)
    | _ => none

def parenthesis (r : Reading) (cs : List Char) : Option (Reading × List Char) :=
  match skip r.spaced cs with
  | '?' :: 'P' :: '<' :: cs => r.enterNamed cs
  | '?' :: '<' :: cs => r.enterNamed cs
  | '?' :: cs => r.enterFlagged cs
  | cs => some (r.enter .nothing, cs)

/-- The next part of a pattern. A count in braces is never complete. -/
def step (r : Reading) : Char → List Char → Option (Reading × List Char)
  | '(', cs => r.parenthesis cs
  | ')', cs => r.leave.map (·, cs)
  | '|', cs => some (r.bar, cs)
  | '[', cs => (CharSet.read r.spaced cs).map fun (s, cs) => (r.add (.leaf (.set s)), cs)
  | '\\', cs => (readEscape r.spaced cs).map fun (a, cs) => (r.add (.leaf (.atom a)), cs)
  | '.', cs => some (r.add (.leaf (.atom .any)), cs)
  | '^', cs => some (r.add (.leaf (.atom .edge)), cs)
  | '$', cs => some (r.add (.leaf (.atom .edge)), cs)
  | '{', _ => none
  | c, cs =>
    if c ∈ ['?', '*', '+'] then
      r.again.map fun r => (r, if cs.head? = some '?' then cs.tail else cs)
    else some (r.add (.leaf (.atom (.letter c false))), cs)

def finish (r : Reading) : Option Pattern := if r.outer.isEmpty then some r.body else none

def run : Nat → Reading → List Char → Option Pattern
  | 0, _, _ => none
  | fuel + 1, r, cs =>
    match skip r.spaced cs with
    | [] => r.finish
    | c :: cs => (r.step c cs).bind fun (r, cs) => run fuel r cs

end Reading

/-- A pattern from its text. Each step takes one character at least. -/
def read? (cs : List Char) : Option Pattern := Reading.run (cs.length + 1) .start cs

end KernelGuise.Pattern
