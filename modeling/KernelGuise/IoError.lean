import KernelGuise.Errno

/-!
# Failed operations

What a kernel says when it could not do what was asked: the error number of a system call, a failure found before any system
call, or a kind alone.
-/

namespace KernelGuise

inductive IoError where
  /-- A system call failed and left this error number. -/
  | os (code : Int32)
  /-- The operation failed for a reason told in words. -/
  | custom (kind : ErrorKind) (message : String)
  /-- Only the kind of the failure is known. -/
  | bare (kind : ErrorKind)
  deriving DecidableEq, Repr

namespace IoError

/-- The text of a failure. An error number stands behind its message, so that two numbers never read the same. -/
def text : IoError → String
  | .os code => Errno.message code ++ " (os error " ++ toString code.toInt ++ ")"
  | .custom _ message => message
  | .bare kind => kind.description

def kind : IoError → ErrorKind
  | .os code => Errno.kind code
  | .custom kind _ => kind
  | .bare kind => kind

/-- The error number, for a failed system call only. -/
def code? : IoError → Option Int32
  | .os code => some code
  | _ => none

end IoError

end KernelGuise
