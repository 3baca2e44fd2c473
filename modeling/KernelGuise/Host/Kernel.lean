import KernelGuise.Host.Libc
import KernelGuise.Kernel

/-!
# The kernel of a host

The kernel that a process runs on, reached through its C library. The error number is read right after the call that failed and
at no other time, so that what an earlier call left there is never reported. A command is refused before the C library is
reached when it has no name, or when a NUL in it would cut it short.
-/

namespace KernelGuise.Libc

open Recorded

variable {τ σ : Type}

/-- The failure that the error number tells. -/
def lastError (c : Libc τ σ) : Recorded SystemCall σ IoError := inspect fun s => .os (c.errno s)

/-- What the host reports: the names in its buffer. -/
def queryIdentity (c : Libc τ σ) : Recorded SystemCall σ (Except IoError Identity) := do
  let (ret, names) ← perform .uname c.uname
  if ret < 0 then return .error (← c.lastError)
  else return .ok names.identity

/-- The request's numbers on its channel. The label stays here: the kernel knows it by the subcommand. -/
def requestPersonality (c : Libc τ σ) (r : Request) : Recorded SystemCall σ (Except IoError Unit) := do
  let ret ← perform (.prctl r.channel r.subcommand r.activation 0 0) (c.prctl r.channel r.subcommand r.activation 0 0)
  if ret < 0 then return .error (← c.lastError)
  else return .ok ()

/-- Start a command in place of the caller. A listener is told of it. -/
def execFor (c : Libc τ σ) (hears : Hearing) : List Bytes → Recorded SystemCall σ (Except IoError τ)
  | [] => return .error (.custom .invalidInput "empty argument vector")
  | program :: args => do
    emit hears (.starting program)
    if (program :: args).any (·.contains 0) then
      return .error (.custom .invalidInput "nul byte found in provided data")
    else
      match ← perform (.execvp program (program :: args)) (c.execvp program (program :: args)) with
      | some after => return .ok after
      | none => return .error (← c.lastError)

/-- The kernel behind a C library, for a listener. -/
def kernelFor (c : Libc τ σ) (hears : Hearing) : Kernel SystemCall τ σ :=
  ⟨c.queryIdentity, c.requestPersonality, c.execFor hears⟩

/-- The kernel behind a C library, with everything heard. -/
def kernel (c : Libc τ σ) : Kernel SystemCall τ σ := c.kernelFor .everything

end KernelGuise.Libc
