import KernelGuise.Text.Utf8

/-!
# The identity a kernel reports

A program that wants to know its operating system asks the kernel for a system name, a release and a machine. Here is such a
report, when its system name counts as a given label, and the decision that follows.
-/

namespace KernelGuise

/-- What a kernel reports of itself, as raw bytes. -/
structure Identity where
  sysname : Bytes
  release : Bytes
  machine : Bytes
  deriving DecidableEq, Repr

/-- What is to be done about an identity. -/
inductive Decision where
  /-- The kernel reports the wanted system name already. -/
  | skip
  /-- The kernel must be asked to report it. -/
  | toggle
  deriving DecidableEq, Repr

namespace Identity

/-- An identity of which only the system name is known. -/
def named (sysname : Bytes) : Identity := ⟨sysname, [], []⟩

def shownSysname (i : Identity) : String := Utf8.lossy i.sysname

/-- The system name is the label: the field holds the label's bytes and a NUL after them. -/
def bears (i : Identity) (label : String) : Bool := i.sysname.holds (Bytes.ofString label)

/-- A request is needed unless the identity bears the label already. -/
def decision (i : Identity) (label : String) : Decision := if i.bears label then .skip else .toggle

/-- An identity bears a label when its system name and the label agree before their first NUL. -/
theorem bears_iff (i : Identity) (label : String) :
    i.bears label = true ↔ i.sysname.beforeNul = (Bytes.ofString label).beforeNul :=
  Bytes.holds_iff _ _

/-- Nothing is requested when the name and the label agree before their first NUL. -/
theorem decision_eq_skip_iff (i : Identity) (label : String) :
    i.decision label = .skip ↔ i.sysname.beforeNul = (Bytes.ofString label).beforeNul := by
  rw [← bears_iff, decision]
  split <;> simp_all

/-- A request is made when the name and the label differ before their first NUL. -/
theorem decision_eq_toggle_iff (i : Identity) (label : String) :
    i.decision label = .toggle ↔ i.sysname.beforeNul ≠ (Bytes.ofString label).beforeNul := by
  rw [ne_eq, ← bears_iff, decision]
  split <;> simp_all

end Identity

namespace Decision

/-- The name of a decision. -/
def name : Decision → String
  | .skip => "Skip"
  | .toggle => "Toggle"

end Decision

end KernelGuise
