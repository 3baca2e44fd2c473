import KernelGuise.Host.Utsname

/-!
# The C library of a host

Three calls of the C library do the work on a host, and a fourth value tells why one failed: a call that returns a negative
number, or a start of a program that comes back, leaves an error number. A call that succeeds may leave anything there.
-/

namespace KernelGuise

inductive SystemCall where
  /-- Fill the name buffer. -/
  | uname
  /-- Control the calling process: an option and its four arguments. -/
  | prctl (option : Int32) (arg2 arg3 arg4 arg5 : UInt64)
  /-- Replace the program of the calling process, found by its file name, and hand it an argument vector. -/
  | execvp (file : Bytes) (argv : List Bytes)
  deriving DecidableEq, Repr

/-- The C library of a host with states `σ`, which leaves a `τ` behind when a program takes over. -/
structure Libc (τ σ : Type) where
  /-- What is returned, and the name buffer. -/
  uname : σ → (Int32 × Utsname) × σ
  /-- What is returned. -/
  prctl (option : Int32) (arg2 arg3 arg4 arg5 : UInt64) : σ → Int32 × σ
  /-- What the program that took over leaves behind, or nothing when the call came back. -/
  execvp (file : Bytes) (argv : List Bytes) : σ → Option τ × σ
  /-- The error number as it stands. -/
  errno : σ → Int32

end KernelGuise
