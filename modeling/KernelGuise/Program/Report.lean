import KernelGuise.Host.Kernel
import KernelGuise.Launch

/-!
# What the program does

The whole program: a command line is run on the host's kernel as if on Linux. Standard output belongs to the command; what the
program has to say goes to standard error, each event when it happens and the failure at the end. Which events are heard, and the
line on which one is put down, is up to the listener.
-/

namespace KernelGuise

/-- Who listens to the program: which events are heard, and the line that is written of each. -/
structure Listener where
  hears : Hearing
  line : Event → String

/-- The same listener, who has stopped listening. -/
def Listener.deaf (l : Listener) : Listener := { l with hears := .nothing }

inductive Stream where
  | out
  | err
  deriving DecidableEq, Repr

/-- What the program does to the world, as seen from outside. -/
inductive Act where
  /-- It writes to a stream. -/
  | write (stream : Stream) (text : String)
  /-- It calls the C library. -/
  | call (c : SystemCall)
  deriving DecidableEq, Repr

namespace Act

/-- The text that an act writes to a stream, if it does. -/
def writes? (stream : Stream) : Act → Option String
  | .write target text => if target = stream then some text else none
  | .call _ => none

def call? : Act → Option SystemCall
  | .write _ _ => none
  | .call c => some c

end Act

/-- What can be told of the program when it, or the command that took its place, has ended. -/
structure Report where
  status : UInt8
  stdout : String
  stderr : String
  calls : List SystemCall
  deriving DecidableEq, Repr

namespace Program

variable {σ : Type}

/-- An entry of the record as it is seen from outside: an event that was heard is put down on a line. -/
def act (l : Listener) : Entry SystemCall → Act
  | .call c => .call c
  | .event e => .write .err (l.line e)

/-- The last act of the program: it reports a failure. Once a command has taken over, it can do nothing more. -/
def ending : Except Failure UInt8 → List Act
  | .error failure => [.write .err failure.line]
  | .ok _ => []

/-- All acts of the program in their order, from how its run came out for a listener. -/
def acts (l : Listener) (o : Outcome SystemCall σ (Except Failure UInt8)) : List Act :=
  o.record.map (act l) ++ ending o.value

def written (stream : Stream) (acts : List Act) : String := String.join (acts.filterMap (Act.writes? stream))

/-- The exit status: that of the command that took over, or 1. -/
def status : Except Failure UInt8 → UInt8
  | .error _ => 1
  | .ok status => status

/-- The program on a command line, over a C library in some state: a command that takes over leaves its exit status behind. -/
def runFor (hears : Hearing) (c : Libc UInt8 σ) (commandLine : List Bytes) (s : σ) :
    Outcome SystemCall σ (Except Failure UInt8) :=
  (c.kernelFor hears).runCommandLineFor hears .linux commandLine s

/-- The program with everything heard. -/
def run (c : Libc UInt8 σ) (commandLine : List Bytes) (s : σ) : Outcome SystemCall σ (Except Failure UInt8) :=
  runFor .everything c commandLine s

/-- What can be told of the program with a listener. -/
def report (l : Listener) (c : Libc UInt8 σ) (commandLine : List Bytes) (s : σ) : Report :=
  let o := runFor l.hears c commandLine s
  ⟨status o.value, written .out (acts l o), written .err (acts l o), (acts l o).filterMap Act.call?⟩

end Program

end KernelGuise
