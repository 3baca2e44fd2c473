import KernelGuise.Filter
import KernelGuise.Program.Report
import KernelGuise.Text.Hidden

/-!
# The program under directives

From outside, the listener is chosen by a list of directives. What is refused of them is told first. An event is put down with its
level, the part that speaks, its message and its fields.
-/

namespace KernelGuise

/-- An event on a line of its own. -/
def Event.line (hidden : Char → Bool) (e : Event) : String :=
  (e.fields hidden).foldl (fun text field => text ++ " " ++ field.1 ++ "=" ++ field.2)
    (e.level.name ++ " " ++ e.target ++ ": " ++ e.message) ++ "\n"

def Listener.ofDirectives (directives : String) : Listener := ⟨(Filter.read directives).shows, Event.line Hidden.isHidden⟩

namespace Program

variable {σ : Type}

def reportUnder (directives : String) (c : Libc UInt8 σ) (commandLine : List Bytes) (s : σ) : Report :=
  let told := report (.ofDirectives directives) c commandLine s
  { told with stderr := String.join ((Filter.refusals directives).map Refusal.line) ++ told.stderr }

end Program

end KernelGuise
