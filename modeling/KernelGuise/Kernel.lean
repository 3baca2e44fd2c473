import KernelGuise.IoError
import KernelGuise.Record
import KernelGuise.Request

/-!
# Kernels

A kernel answers three questions: what it reports, whether it takes a request, and to start a command in place of the one that
asks. Its answers may depend on all that went before, through its state. What there is after a command has taken over is left
open; for a kernel that always comes back it is the empty type.
-/

namespace KernelGuise

inductive Call where
  /-- What do you report? -/
  | query
  /-- Report another identity. -/
  | personality (request : Request)
  /-- Start this command in place of the caller. -/
  | exec (argv : List Bytes)
  deriving DecidableEq, Repr

/-- A kernel with states `σ`, which records calls `κ` and leaves a `τ` behind when a command takes over. -/
structure Kernel (κ τ σ : Type) where
  queryIdentity : Recorded κ σ (Except IoError Identity)
  requestPersonality : Request → Recorded κ σ (Except IoError Unit)
  exec : List Bytes → Recorded κ σ (Except IoError τ)

namespace Kernel

variable {κ κ' τ σ : Type}

/-- The same kernel, watched from outside: each question is recorded, in place of the kernel's own calls, as what an observer
notes of it in the state in which it is put. -/
def watched (k : Kernel κ τ σ) (note : σ → Call → κ') : Kernel κ' τ σ where
  queryIdentity := k.queryIdentity.noted (note · .query)
  requestPersonality request := (k.requestPersonality request).noted (note · (.personality request))
  exec argv := (k.exec argv).noted (note · (.exec argv))

/-- A kernel that says nothing of its own and records the questions put to it, from how it answers each. -/
def ofAnswers (query : σ → Except IoError Identity × σ) (personality : Request → σ → Except IoError Unit × σ)
    (exec : List Bytes → σ → Except IoError τ × σ) : Kernel Call τ σ where
  queryIdentity := .perform .query query
  requestPersonality request := .perform (.personality request) (personality request)
  exec argv := .perform (.exec argv) (exec argv)

end Kernel

end KernelGuise
