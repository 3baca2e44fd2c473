import KernelGuise.Directive
import KernelGuise.Directive.Place
import KernelGuise.Pattern.Matcher
import KernelGuise.Text.Numeral

/-!
# Directives as text

A directive is written as a level for everything; or as a target, a scope in square brackets, or both, with an equals sign and a
level after them. Without the level it shows all levels. A scope is the name of a span, a field in braces, or both; a field is a
name, or a name and a value with an equals sign between them, where the value is a number or else a pattern. A level is its name
in any case, or its number.
-/

namespace KernelGuise

namespace Level

/-- Levels by number: from 1 for the coarsest to 5 for the finest, and 0 for no level at all. -/
def ofNumber? : Nat → Option (Option Level)
  | 0 => some none
  | 1 => some (some .error)
  | 2 => some (some .warn)
  | 3 => some (some .info)
  | 4 => some (some .debug)
  | 5 => some (some .trace)
  | _ => none

/-- Levels by name in any case; `off` is no level at all. -/
def ofName? (word : List Char) : Option (Option Level) :=
  match String.ofList (word.map Char.toLower) with
  | "off" => some none
  | "error" => some (some .error)
  | "warn" => some (some .warn)
  | "info" => some (some .info)
  | "debug" => some (some .debug)
  | "trace" => some (some .trace)
  | _ => none

/-- A number in decimal digits, with any number of zeros and at most one plus sign before it. -/
def number? (word : List Char) : Option Nat :=
  let digits := match word with
    | '+' :: cs => cs
    | cs => cs
  if digits ≠ [] ∧ digits.all Char.isDigit then some (digits.foldl (fun n c => 10 * n + (c.toNat - '0'.toNat)) 0)
  else none

def read? (word : List Char) : Option (Option Level) := ((number? word).bind ofNumber?).or (ofName? word)

end Level

/-- Why a text cannot be read as a directive. -/
inductive DirectiveError where
  /-- It is not made up like one. -/
  | malformed
  /-- The value of its field is a pattern that cannot be used. -/
  | badValue (cause : Pattern.MatcherError)
  /-- What stands after the equals sign is no level. -/
  | unknownLevel
  deriving DecidableEq, Repr

/-- The text of an error. -/
def DirectiveError.message : DirectiveError → String
  | .malformed => "invalid filter directive"
  | .badValue cause => "invalid field filter: " ++ cause.message
  | .unknownLevel => "error parsing level filter: expected one of \"off\", \"error\", \"warn\", \"info\", \"debug\", \"trace\", " ++
      "or a number 0-5"

namespace Directive

/-- A target begins with a letter or number of any script or with one of the signs that join names. -/
def startsTarget (c : Char) : Bool := c == '-' || c == ':' || c == '_' || Alphanumeric.isAlphanumeric c

/-- A word alone is a level for everything, or else a target that shows all levels. -/
def ofWord (word : List Char) : Directive :=
  match Level.read? word with
  | some finest => ⟨"", .every, finest⟩
  | none => ⟨String.ofList word, .every, some .trace⟩

/-- The end of a directive is the level after its equals sign; nothing there means all levels. -/
def readLevel (target : List Char) (scope : Scope) (word : List Char) : Except DirectiveError Directive :=
  if word = [] then .ok ⟨String.ofList target, scope, some .trace⟩
  else match Level.read? word with
    | some finest => .ok ⟨String.ofList target, scope, finest⟩
    | none => .error .unknownLevel

def readAfterScope (target : List Char) (scope : Scope) (p : Place) : Except DirectiveError Directive :=
  match p.next? with
  | none => .ok ⟨String.ofList target, scope, some .trace⟩
  | some ('=', p) => readLevel target scope p.text
  | some _ => .error .malformed

/-- What stands against a value, if anything does: a value is a number or a pattern. -/
def valueError? (value : List Char) : Option Pattern.MatcherError :=
  if Numeral.isNumeral value then none else Pattern.error? value

/-- The scope that the name of a span and a field stand for: a name for a span, or a value for a field, is about spans. A value
ends where another equals sign follows it. -/
def scopeOf (span field : List Char) : Except DirectiveError Scope :=
  let name := field.takeWhile (· != '=')
  match field.drop name.length with
  | [] => .ok (if span = [] then .having (String.ofList name) else .inSpan)
  | _ :: rest =>
    match valueError? (rest.takeWhile (· != '=')) with
    | none => .ok .inSpan
    | some cause => .error (.badValue cause)

/-- A directive from inside its square brackets on. -/
def readScope (target : List Char) (p : Place) : Except DirectiveError Directive :=
  let (span, p) := p.word fun c => c == ']' || c == '{'
  match p.next? with
  | none => .error .malformed
  | some (']', p) => readAfterScope target .inSpan p
  | some (_, p) =>
    let (field, p) := p.word (· == '}')
    match p.next? with
    | none => .error .malformed
    | some (_, p) =>
      if field = [] then .error .malformed
      else do
        let scope ← scopeOf span field
        match p.next? with
        | some (']', p) => readAfterScope target scope p
        | _ => .error .malformed

def read (text : String) : Except DirectiveError Directive :=
  let start := Place.start text.toList
  match start.next? with
  | none => .error .malformed
  | some ('[', p) => readScope [] p
  | some (c, _) =>
    if startsTarget c then
      let (target, p) := start.word fun c => c == '=' || c == '['
      match p.next? with
      | none => .ok (ofWord start.text)
      | some ('=', p) => readLevel target .every p.text
      | some (_, p) => readScope target p
    else .error .malformed

end Directive

end KernelGuise
