import KernelGuise.IoError

/-!
# Why a run fails

A run that does not end in the command's own process has failed at one place: the command line names no command, or one of the
three things asked of the kernel failed. Each failure has one message, which names the place and keeps the kernel's words.
-/

namespace KernelGuise

/-- The name under which the program reports. -/
def programName : String := "mocklinux"

/-- The place where a run failed, with the kernel's answer there. -/
inductive Failure where
  /-- No command was given. -/
  | usage
  /-- The kernel did not say what it reports. -/
  | query (cause : IoError)
  /-- The kernel did not take the request. -/
  | toggle (cause : IoError)
  /-- The command did not start. -/
  | exec (cause : IoError)
  deriving DecidableEq, Repr

namespace Failure

/-- What the kernel said, unless it was not asked at all. -/
def cause? : Failure → Option IoError
  | .usage => none
  | .query cause => some cause
  | .toggle cause => some cause
  | .exec cause => some cause

def message : Failure → String
  | .usage => "usage: " ++ programName ++ " <cmd> [args...]"
  | .query cause => "uname: error: " ++ cause.text
  | .toggle cause => "prctl: error: " ++ cause.text
  | .exec cause => "exec: error: " ++ cause.text

/-- The line that reports a failure: the usage as it is, any other message under the program's name. -/
def line : Failure → String
  | .usage => usage.message ++ "\n"
  | failure => programName ++ ": " ++ failure.message ++ "\n"

end Failure

end KernelGuise
