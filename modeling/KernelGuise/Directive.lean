import KernelGuise.Event

/-!
# Directives

A directive says up to which level events are shown. It speaks about the events whose target begins with its own, and may be
narrowed to some of them. Where several speak about one event, the one that says most about it decides: the longest target
first, then the narrower scope.
-/

namespace KernelGuise

/-- An event has a field of some name, whatever it holds. The message is a field that every event has. -/
def Event.hasField (e : Event) (name : String) : Bool := name == "message" || (e.fields fun _ => false).any (·.1 == name)

/-- To which of the events at its targets a directive is narrowed. -/
inductive Scope where
  /-- All of them. -/
  | every
  /-- Those that have a field of this name. -/
  | having (field : String)
  /-- Those inside a span, a stretch of the run that has a name and values of its own. This program has no spans. -/
  | inSpan
  deriving DecidableEq, Repr

namespace Scope

/-- The scope takes an event in. -/
def admits : Scope → Event → Bool
  | .every, _ => true
  | .having field, e => e.hasField field
  | .inSpan, _ => false

/-- Scopes from wide to narrow; two fields go by their names. -/
def le : Scope → Scope → Bool
  | .every, _ => true
  | .having f, .having g => f ≤ g
  | _, .inSpan => true
  | _, _ => false

end Scope

/-- A directive: the events in its scope whose target begins with this one are shown up to this level, or not at all. The empty
target is the start of every target. -/
structure Directive where
  target : String
  scope : Scope
  finest : Option Level
  deriving DecidableEq, Repr

namespace Directive

def covers (d : Directive) (e : Event) : Bool :=
  d.target.toList.isPrefixOf e.target.toList && d.scope.admits e

/-- Of two directives about one event, the second says as much about it as the first: its target is longer, or as long and its
scope no wider. -/
def yieldsTo (d d' : Directive) : Bool :=
  d.target.length < d'.target.length || (d.target.length == d'.target.length && d.scope.le d'.scope)

end Directive

end KernelGuise
