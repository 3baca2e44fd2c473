import KernelGuise.Invocation
import KernelGuise.Kernel

/-!
# Launching a command under an identity

The order is fixed: ask the kernel what it reports, have it report the wanted label unless it does already, and start the
command in place of the caller. A step that fails ends the launch, so that no command ever starts under an identity that the
kernel did not vouch for.

What is said along the way goes to a listener, who may hear some of it only. The steps under their plain names are those with a
listener who hears everything.
-/

namespace KernelGuise

open Recorded

namespace Kernel

variable {κ τ σ : Type}

def probeFor (k : Kernel κ τ σ) (hears : Hearing) : Recorded κ σ (Except Failure Identity) := do
  match ← k.queryIdentity with
  | .error cause => return .error (.query cause)
  | .ok identity =>
    emit hears (.ofProbe identity)
    return .ok identity

/-- Have the kernel report the request's label, given what it reports now. At most one request is put, and a refused one is a
failure. -/
def ensureFor (k : Kernel κ τ σ) (hears : Hearing) (current : Identity) (request : Request) :
    Recorded κ σ (Except Failure Decision) := do
  match current.decision request.label with
  | .skip =>
    emit hears (.alreadyMatches current.shownSysname)
    return .ok .skip
  | .toggle =>
    emit hears (.requesting current.shownSysname request.channel request.subcommand request.activation)
    match ← k.requestPersonality request with
    | .error cause => return .error (.toggle cause)
    | .ok () => return .ok .toggle

def transferFor (k : Kernel κ τ σ) (hears : Hearing) (v : Invocation) : Recorded κ σ (Except Failure τ) := do
  emit hears (.replacing v.argv)
  match ← k.exec v.argv with
  | .error cause => return .error (.exec cause)
  | .ok after => return .ok after

/-- Settle the identity, then start the command. -/
def runFor (k : Kernel κ τ σ) (hears : Hearing) (request : Request) (v : Invocation) :
    Recorded κ σ (Except Failure τ) := do
  match ← k.probeFor hears with
  | .error failure => return .error failure
  | .ok identity =>
    match ← k.ensureFor hears identity request with
    | .error failure => return .error failure
    | .ok decision =>
      emit hears (.settled decision request.label)
      k.transferFor hears v

/-- Run the command that a command line names. Without a command the kernel is not asked anything. -/
def runCommandLineFor (k : Kernel κ τ σ) (hears : Hearing) (request : Request) (line : List Bytes) :
    Recorded κ σ (Except Failure τ) :=
  match Invocation.ofCommandLine line with
  | .error failure => return .error failure
  | .ok v => k.runFor hears request v

/-! ## With everything heard -/

def probe (k : Kernel κ τ σ) : Recorded κ σ (Except Failure Identity) := k.probeFor .everything

def ensure (k : Kernel κ τ σ) (current : Identity) (request : Request) : Recorded κ σ (Except Failure Decision) :=
  k.ensureFor .everything current request

def transfer (k : Kernel κ τ σ) (v : Invocation) : Recorded κ σ (Except Failure τ) := k.transferFor .everything v

def run (k : Kernel κ τ σ) (request : Request) (v : Invocation) : Recorded κ σ (Except Failure τ) :=
  k.runFor .everything request v

def runCommandLine (k : Kernel κ τ σ) (request : Request) (line : List Bytes) : Recorded κ σ (Except Failure τ) :=
  k.runCommandLineFor .everything request line

/-- A run is its three steps, each after the one before it. -/
theorem run_eq (k : Kernel κ τ σ) (request : Request) (v : Invocation) :
    k.run request v = (do
      match ← k.probe with
      | .error failure => return .error failure
      | .ok identity =>
        match ← k.ensure identity request with
        | .error failure => return .error failure
        | .ok decision =>
          emit .everything (.settled decision request.label)
          k.transfer v) :=
  rfl

end Kernel

/-- A way to start a command. -/
inductive Launch where
  /-- An invocation, under the identity of a request. -/
  | invocation (request : Request) (v : Invocation)
  /-- A full command line, under the identity of a request. -/
  | commandLine (request : Request) (line : List Bytes)
  /-- An invocation, as if on Linux. -/
  | onLinux (v : Invocation)
  deriving DecidableEq, Repr

namespace Launch

variable {κ τ σ : Type}

/-- The request that a launch makes. -/
def request : Launch → Request
  | .invocation request _ => request
  | .commandLine request _ => request
  | .onLinux _ => .linux

def on (k : Kernel κ τ σ) : Launch → Recorded κ σ (Except Failure τ)
  | .invocation request v => k.run request v
  | .commandLine request line => k.runCommandLine request line
  | .onLinux v => k.run .linux v

end Launch

end KernelGuise
