import KernelGuise.Event

/-!
# Recorded computations

What is asked of a kernel changes the kernel, and both the calls and the events are a matter of order. A recorded computation
starts in a state of the kernel and ends with a value, the next state, and all calls and events between the two, oldest first.
What a call is, is left open: the questions put to a kernel, or the system calls beneath them.

Whoever listens need not hear every event. One that is not heard leaves no entry, and this is settled when it happens.
-/

namespace KernelGuise

inductive Entry (κ : Type) where
  /-- A call was made. -/
  | call (c : κ)
  /-- Something was said. -/
  | event (e : Event)
  deriving DecidableEq, Repr

namespace Entry

variable {κ : Type}

/-- The call of an entry, if it is one. -/
def call? : Entry κ → Option κ
  | .call c => some c
  | .event _ => none

def event? : Entry κ → Option Event
  | .call _ => none
  | .event e => some e

@[simp] theorem call?_call (c : κ) : (call c).call? = some c := rfl

@[simp] theorem call?_event (e : Event) : (event e : Entry κ).call? = none := rfl

@[simp] theorem event?_call (c : κ) : (call c).event? = none := rfl

@[simp] theorem event?_event (e : Event) : (event e : Entry κ).event? = some e := rfl

/-- Events make no call. -/
@[simp] theorem filterMap_call?_comp_event (es : List Event) : es.filterMap (call? ∘ (event : Event → Entry κ)) = [] :=
  List.filterMap_eq_nil_iff.mpr fun _ _ => rfl

@[simp] theorem event?_comp_event : event? ∘ (event : Event → Entry κ) = some := rfl

end Entry

/-- Which events are heard. -/
abbrev Hearing := Event → Bool

namespace Hearing

def everything : Hearing := fun _ => true

def nothing : Hearing := fun _ => false

@[simp] theorem everything_apply (e : Event) : everything e = true := rfl

end Hearing

/-- What a recorded computation comes to. -/
structure Outcome (κ σ α : Type) where
  value : α
  record : List (Entry κ)
  state : σ

namespace Outcome

variable {κ σ α : Type}

def calls (o : Outcome κ σ α) : List κ := o.record.filterMap Entry.call?

def events (o : Outcome κ σ α) : List Event := o.record.filterMap Entry.event?

theorem mem_calls {o : Outcome κ σ α} {c : κ} : c ∈ o.calls ↔ .call c ∈ o.record := by
  simp only [calls, List.mem_filterMap]
  constructor
  · rintro ⟨entry, hm, he⟩
    cases entry with
    | call c' =>
      cases he
      exact hm
    | event e => cases he
  · exact fun hm => ⟨_, hm, rfl⟩

theorem mem_events {o : Outcome κ σ α} {e : Event} : e ∈ o.events ↔ .event e ∈ o.record := by
  simp only [events, List.mem_filterMap]
  constructor
  · rintro ⟨entry, hm, he⟩
    cases entry with
    | call c => cases he
    | event e' =>
      cases he
      exact hm
  · exact fun hm => ⟨_, hm, rfl⟩

end Outcome

/-- A computation on states `σ` that records calls `κ` and events on its way to a value. -/
def Recorded (κ σ α : Type) : Type := σ → Outcome κ σ α

namespace Recorded

variable {κ κ' σ α β : Type}

/-- A value at hand: nothing is recorded. -/
def pure (a : α) : Recorded κ σ α := fun s => ⟨a, [], s⟩

/-- One computation after another: the second starts where the first ended, and its record follows. -/
def bind (x : Recorded κ σ α) (f : α → Recorded κ σ β) : Recorded κ σ β := fun s =>
  let first := x s
  let second := f first.value first.state
  ⟨second.value, first.record ++ second.record, second.state⟩

instance : Monad (Recorded κ σ) where
  pure := pure
  bind := bind

/-- Say something to a listener. It is recorded if it is heard. -/
def emit (hears : Hearing) (e : Event) : Recorded κ σ Unit := fun s => ⟨(), if hears e then [.event e] else [], s⟩

def perform (c : κ) (act : σ → α × σ) : Recorded κ σ α := fun s => ⟨(act s).1, [.call c], (act s).2⟩

/-- Look at the state without a call. -/
def inspect (look : σ → α) : Recorded κ σ α := fun s => ⟨look s, [], s⟩

/-- The same computation recorded as one call, noted in the state in which it starts. The events stay. -/
def noted (note : σ → κ') (x : Recorded κ σ α) : Recorded κ' σ α := fun s =>
  ⟨(x s).value, .call (note s) :: (x s).events.map .event, (x s).state⟩

@[simp] theorem pure_run (a : α) (s : σ) : (Pure.pure a : Recorded κ σ α) s = ⟨a, [], s⟩ := rfl

@[simp] theorem bind_run (x : Recorded κ σ α) (f : α → Recorded κ σ β) (s : σ) :
    (x >>= f) s = ⟨(f (x s).value (x s).state).value, (x s).record ++ (f (x s).value (x s).state).record,
      (f (x s).value (x s).state).state⟩ := rfl

@[simp] theorem emit_run (hears : Hearing) (e : Event) (s : σ) :
    (emit hears e : Recorded κ σ Unit) s = ⟨(), if hears e then [.event e] else [], s⟩ := rfl

@[simp] theorem perform_run (c : κ) (act : σ → α × σ) (s : σ) :
    perform c act s = ⟨(act s).1, [.call c], (act s).2⟩ := rfl

@[simp] theorem noted_run (note : σ → κ') (x : Recorded κ σ α) (s : σ) :
    x.noted note s = ⟨(x s).value, .call (note s) :: (x s).events.map .event, (x s).state⟩ := rfl

@[simp] theorem inspect_run (look : σ → α) (s : σ) : (inspect look : Recorded κ σ α) s = ⟨look s, [], s⟩ := rfl

/-- Order is all that counts in a record, so computations compose as in any monad. -/
instance : LawfulMonad (Recorded κ σ) := LawfulMonad.mk' (Recorded κ σ)
  (by
    intro α x
    funext s
    simp [Functor.map, bind, pure])
  (by
    intro α β a f
    funext s
    simp)
  (by
    intro α β γ x f g
    funext s
    simp)

@[simp] theorem map_run (f : α → β) (x : Recorded κ σ α) (s : σ) :
    (f <$> x) s = ⟨f (x s).value, (x s).record, (x s).state⟩ := by
  rw [map_eq_pure_bind]
  simp

end Recorded

end KernelGuise
