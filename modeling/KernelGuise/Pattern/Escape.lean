import KernelGuise.Pattern.CharSet
import KernelGuise.Text.Blank
import KernelGuise.Text.Hex

/-!
# Escapes in patterns

What a backslash and the characters after it stand for, and what stands for nothing at all in a pattern that may hold blanks and
comments. No closing brace is ever read here: patterns are written between braces, so that they hold none, and a number or a
name that would need one is never complete.
-/

namespace KernelGuise.Pattern

/-- The text after blanks and comments. A comment goes from a number sign to the end of its line. -/
def skipSpace (comment : Bool) : List Char → List Char
  | [] => []
  | c :: cs =>
    if comment then skipSpace (c != '\n') cs
    else if Blank.isBlank c then skipSpace false cs
    else if c = '#' then skipSpace true cs
    else c :: cs

def skip (spaced : Bool) (cs : List Char) : List Char := if spaced then skipSpace false cs else cs

/-- The first character that is no blank, where one number sign is passed over, but not what it makes a comment of. -/
def firstPast (sign : Bool) : List Char → Option Char
  | [] => none
  | c :: cs =>
    if Blank.isBlank c then firstPast sign cs
    else if c = '#' && !sign then firstPast true cs
    else some c

/-- The character ahead. In a spaced pattern it is looked for past blanks; where there is none, it is the next as it stands. -/
def ahead (spaced : Bool) (cs : List Char) : Option Char := (if spaced then firstPast false cs else none).or cs.head?

/-- A hexadecimal number of so many digits, after the value of those before it. -/
def readHex (spaced : Bool) : Nat → Nat → List Char → Option (Nat × List Char)
  | 0, value, cs => some (value, cs)
  | digits + 1, value, cs =>
    match skip spaced cs with
    | [] => none
    | c :: cs => (Hex.value? c).bind fun digit => readHex spaced digits (16 * value + digit) cs

def readNumber (spaced : Bool) (digits : Nat) (cs : List Char) : Option (Atom × List Char) :=
  (readHex spaced digits 0 cs).bind fun (value, cs) =>
    if value.isValidChar then some (.letter (Char.ofNat value) (digits == 2), cs) else none

/-- The control characters that have a letter. -/
def control? : Char → Option Char
  | 'a' => some '\x07'
  | 'f' => some '\x0c'
  | 't' => some '\t'
  | 'n' => some '\n'
  | 'r' => some '\r'
  | 'v' => some '\x0b'
  | _ => none

/-- A sign of ASCII that stands for itself after a backslash. -/
def isSign (c : Char) : Bool := c.toNat < 0x80 && !c.isAlphanum && c != '<' && c != '>'

/-- What is escaped by a backslash, from the character after it on. A property is named by one letter. -/
def readEscape (spaced : Bool) : List Char → Option (Atom × List Char)
  | [] => none
  | 'x' :: cs => readNumber spaced 2 cs
  | 'u' :: cs => readNumber spaced 4 cs
  | 'U' :: cs => readNumber spaced 8 cs
  | c :: cs =>
    if c = 'p' ∨ c = 'P' then
      match skip spaced cs with
      | [] => none
      | name :: cs => if name = '{' ∨ name = '\\' then none else some (.property, cs)
    else if c ∈ ['d', 's', 'w'] then some (.shorthand false, cs)
    else if c ∈ ['D', 'S', 'W'] then some (.shorthand true, cs)
    else if c ∈ ['A', 'z'] then some (.edge, cs)
    else if c ∈ ['b', 'B', '<', '>'] then some (.wordEdge, cs)
    else if isSign c then some (.letter c false, cs)
    else (control? c).map fun c => (.letter c false, cs)

end KernelGuise.Pattern
