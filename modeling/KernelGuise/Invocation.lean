import KernelGuise.Bytes
import KernelGuise.Failure

/-!
# Invocations

The command that is to be run and its arguments, and how a command line names them.
-/

namespace KernelGuise

structure Invocation where
  command : Bytes
  args : List Bytes
  deriving DecidableEq, Repr

namespace Invocation

/-- The argument vector that the command is started with: its own name comes first. -/
def argv (v : Invocation) : List Bytes := v.command :: v.args

/-- A command line begins with the program's own name, and the command follows it. -/
def ofCommandLine : List Bytes → Except Failure Invocation
  | _ :: command :: args => .ok ⟨command, args⟩
  | _ => .error .usage

end Invocation

end KernelGuise
