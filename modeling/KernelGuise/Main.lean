import KernelGuise.Program

/-!
# Command line

The program started from a shell. The names that the kernel reports are read from the files in which it publishes them. This
process has no way to put a request to its kernel or to let a command take its place: both calls come back as not implemented.
-/

namespace KernelGuise

/-- The error number of a call that is not there. -/
def notImplemented : Int32 := 38

/-- A C library that knows the kernel's names at most, and can neither control the process nor replace its program. Its state is
the error number. -/
def namesOnly (names : Option Utsname) : Libc UInt8 Int32 where
  uname errno := match names with
    | some names => ((0, names), errno)
    | none => ((-1, .store (.named [])), notImplemented)
  prctl _ _ _ _ _ _ := (-1, notImplemented)
  execvp _ _ _ := (none, notImplemented)
  errno errno := errno

/-- A name that the kernel publishes, without the end of its line. -/
def publishedName (name : String) : IO Bytes := do
  let text ← IO.FS.readFile ("/proc/sys/kernel/" ++ name)
  return Bytes.ofString (String.ofList (text.toList.takeWhile (· != '\n')))

/-- The names that the kernel publishes, if it publishes them all. -/
def publishedNames : IO (Option Utsname) := do
  try
    let sysname ← publishedName "ostype"
    let release ← publishedName "osrelease"
    let machine ← publishedName "arch"
    return some (.store ⟨sysname, release, machine⟩)
  catch _ => return none

end KernelGuise

open KernelGuise in
/-- Runs the program on the arguments given, with the events that the environment asks for. -/
def main (args : List String) : IO UInt32 := do
  let directives := (← IO.getEnv "RUST_LOG").getD ""
  let report := Program.reportUnder directives (namesOnly (← publishedNames)) ((programName :: args).map Bytes.ofString) 0
  IO.print report.stdout
  IO.eprint report.stderr
  return report.status.toUInt32
