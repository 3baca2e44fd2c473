import KernelGuise.Host.Kernel
import KernelGuise.Script.Queue

/-!
# A C library that follows a script

A C library with prepared outcomes, for rehearsals. An outcome sets the error number only when it brings one, so that a call can
leave behind what an earlier one set.
-/

namespace KernelGuise

/-- A prepared outcome: what a call brings back, and the error number that it sets, if any. -/
structure Reply (α : Type) where
  value : α
  errno : Option Int32
  deriving DecidableEq, Repr

/-- The prepared outcomes of a C library, and its error number. -/
structure LibcScript (τ : Type) where
  uname : Queue (Reply (Int32 × Utsname))
  prctl : Queue (Reply Int32)
  execvp : Queue (Reply (Option τ))
  errno : Int32

namespace LibcScript

variable {τ : Type}

def errnoAfter {α : Type} (s : LibcScript τ) (r : Reply α) : Int32 := r.errno.getD s.errno

/-- The C library that follows its script. -/
def libc : Libc τ (LibcScript τ) where
  uname s := (s.uname.next.value, { s with uname := s.uname.advance, errno := s.errnoAfter s.uname.next })
  prctl _ _ _ _ _ s := (s.prctl.next.value, { s with prctl := s.prctl.advance, errno := s.errnoAfter s.prctl.next })
  execvp _ _ s := (s.execvp.next.value, { s with execvp := s.execvp.advance, errno := s.errnoAfter s.execvp.next })
  errno s := s.errno

end LibcScript

end KernelGuise
