/-!
# Personality requests

A kernel that can pass as Linux is asked to do so over a control channel of its own. A request holds the label that must be
reported afterwards and the three numbers that the kernel is given. It is put together from settings, of which the later ones
win.
-/

namespace KernelGuise

/-- The control option of the Maestro kernel: its four bytes spell `MSTR`. -/
def maestroChannel : Int32 := 0x4d535452

/-- The subcommand that makes the Maestro kernel pass as Linux. -/
def maestroLinux : UInt64 := 0

/-- The system name that programs expect of Linux. -/
def linuxLabel : String := "Linux"

structure Request where
  /-- The system name that must be reported afterwards. -/
  label : String
  /-- The option that names the control channel. -/
  channel : Int32
  /-- The subcommand on that channel. -/
  subcommand : UInt64
  /-- Any number but zero turns the identity on. -/
  activation : UInt64
  deriving DecidableEq, Repr

/-- One setting of a request. -/
inductive Setting where
  /-- Forget all settings so far. -/
  | startOver
  /-- Ask for this label. -/
  | label (label : String)
  /-- Ask for just this. -/
  | request (request : Request)
  deriving DecidableEq, Repr

namespace Request

/-- The request to pass as Linux. -/
def linux : Request := ⟨linuxLabel, maestroChannel, maestroLinux, 1⟩

def set (r : Request) : Setting → Request
  | .startOver => linux
  | .label label => { r with label }
  | .request request => request

/-- The request that settings make, in their order, from the one to pass as Linux. -/
def ofSettings (settings : List Setting) : Request := settings.foldl set linux

end Request

end KernelGuise
