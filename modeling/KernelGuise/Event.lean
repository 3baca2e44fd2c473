import KernelGuise.Identity
import KernelGuise.Level
import KernelGuise.Text.Quoted

/-!
# Events

What is said along the way of a run, for whoever listens. An event has a level, a target that tells which part speaks, a message
and named fields; it says what was seen or decided and changes nothing.
-/

namespace KernelGuise

/-- Something said during a run. -/
inductive Event where
  /-- The kernel has said what it reports. -/
  | probed (sysname release machine : String)
  /-- The system name is the label already, so that nothing is requested. -/
  | alreadyMatches (sysname : String)
  /-- A request is about to be put to the kernel. -/
  | requesting (sysname : String) (channel : Int32) (subcommand activation : UInt64)
  /-- The wanted identity is in place. -/
  | settled (decision : Decision) (label : String)
  /-- The command is about to take the place of this process. -/
  | replacing (argv : List Bytes)
  /-- The host starts a program. -/
  | starting (program : Bytes)
  deriving DecidableEq, Repr

namespace Event

/-- The event of an identity that has been reported. -/
def ofProbe (i : Identity) : Event := .probed i.shownSysname (Utf8.lossy i.release) (Utf8.lossy i.machine)

def level : Event → Level
  | .alreadyMatches _ => .trace
  | .starting _ => .trace
  | _ => .debug

/-- What goes wrong is told by failures: no event is an error. -/
theorem level_ne_error (e : Event) : e.level ≠ .error := by
  cases e <;> nofun

/-- The part that speaks. -/
def target : Event → String
  | .probed _ _ _ => "mocklinux::identity"
  | .alreadyMatches _ => "mocklinux::personality"
  | .requesting _ _ _ _ => "mocklinux::personality"
  | .settled _ _ => "mocklinux"
  | .replacing _ => "mocklinux::transfer"
  | .starting _ => "mocklinux::sys::unix"

def message : Event → String
  | .probed _ _ _ => "probed kernel identity"
  | .alreadyMatches _ => "identity already matches, skipping request"
  | .requesting _ _ _ _ => "requesting personality"
  | .settled _ _ => "identity settled"
  | .replacing _ => "replacing process image"
  | .starting _ => "exec"

/-- The fields of an event by name, in order. Byte strings are quoted; which characters past ASCII do not show is a
parameter. -/
def fields (hidden : Char → Bool) : Event → List (String × String)
  | .probed sysname release machine => [("sysname", sysname), ("release", release), ("machine", machine)]
  | .alreadyMatches sysname => [("sysname", sysname)]
  | .requesting sysname channel subcommand activation =>
    [("sysname", sysname), ("channel", toString channel.toInt), ("subcommand", toString subcommand.toNat),
      ("activation", toString activation.toNat)]
  | .settled decision label => [("decision", decision.name), ("label", label)]
  | .replacing argv => [("argv", Quoted.quotedList hidden argv)]
  | .starting program => [("program", Quoted.quoted hidden program)]

end Event

end KernelGuise
