import KernelGuise.Host.Kernel
import KernelGuise.Launch
import KernelGuise.Script.Libc

/-!
# A label in the host's name field

The host tells its system name in a field of 65 signed characters. Whether that name is a label is decided on the part of the
field before its first NUL; here this is compared with what a label of a given length looks like in the field as it stands
(`NameField.Spells`): up to 64 bytes it has a NUL after it and anything may follow, with 65 bytes it is the whole field, and a
longer label never fits. Cutting the field at its NUL changes no decision (`NameField.decision_read_eq`).
-/

namespace KernelGuise

namespace NameField

/-- A field spells a name out: the name's bytes and a NUL stand at its start, or the name is as wide as the field and is all of
it. -/
def Spells (f : NameField) (name : Bytes) : Prop :=
  (name.length ≤ 64 ∧ f.bytes.take (name.length + 1) = name ++ [0]) ∨ (name.length = 65 ∧ f.bytes = name)

instance (f : NameField) (name : Bytes) : Decidable (f.Spells name) := inferInstanceAs (Decidable (_ ∨ _))

theorem length_bytes (f : NameField) : f.bytes.length = 65 := by
  simp [bytes]

/-- The name read from a field is the one that it spells out. -/
theorem read_eq_iff_spells (f : NameField) {name : Bytes} (hn : 0 ∉ name) : f.read = name ↔ f.Spells name := by
  have hlen := f.length_bytes
  rw [read_eq_beforeNul, Bytes.beforeNul_eq_iff hn, Spells]
  constructor
  · rintro (h | h)
    · left
      have hl := congrArg List.length h
      rw [List.length_take, List.length_append, hlen] at hl
      exact ⟨by simp at hl; omega, h⟩
    · right
      exact ⟨h ▸ hlen, h⟩
  · rintro (⟨-, h⟩ | ⟨-, h⟩)
    · exact .inl h
    · exact .inr h

/-- No field spells a name out that is wider than itself. -/
theorem not_spells_of_wide (f : NameField) {name : Bytes} (h : 65 < name.length) : ¬f.Spells name := by
  rintro (⟨hl, -⟩ | ⟨hl, -⟩) <;> omega

/-- The name read from a field holds a label as the field itself does, with all that follows the NUL. -/
theorem decision_read_eq (f : NameField) (i j : Identity) (hi : i.sysname = f.read) (hj : j.sysname = f.bytes)
    (label : String) : i.decision label = j.decision label := by
  have hb : i.sysname.beforeNul = j.sysname.beforeNul := by
    rw [hi, hj, read_eq_beforeNul, Bytes.beforeNul_of_zero_notMem (Bytes.zero_notMem_beforeNul _)]
  cases hd : j.decision label with
  | skip =>
    rw [Identity.decision_eq_skip_iff, ← hb] at hd
    exact (i.decision_eq_skip_iff label).mpr hd
  | toggle =>
    rw [Identity.decision_eq_toggle_iff, ← hb] at hd
    exact (i.decision_eq_toggle_iff label).mpr hd

end NameField

namespace Utsname

/-- The label of the identity in a name buffer is the one that its first field spells out. -/
theorem decision_eq_skip_iff_spells (u : Utsname) (label : String) :
    u.identity.decision label = .skip ↔ u.sysname.Spells (Bytes.ofString label).beforeNul := by
  have hn : 0 ∉ (Bytes.ofString label).beforeNul := Bytes.zero_notMem_beforeNul _
  rw [u.decision_eq_skip_iff_read, NameField.read_eq_iff_spells _ hn]

end Utsname

namespace Libc

variable {τ σ : Type}

/-- A host that fills its name buffer is probed for the identity in it. -/
theorem probe_value (c : Libc τ σ) {s : σ} (hr : 0 ≤ (c.uname s).1.1) :
    (c.kernel.probe s).value = .ok (c.uname s).1.2.identity := by
  have hn : ¬(c.uname s).1.1 < 0 := Int32.not_lt.mpr hr
  simp [Kernel.probe, Kernel.probeFor, kernel, kernelFor, queryIdentity, hn]

/-- What is decided about a host that fills its name buffer is the comparison of fixed width on the buffer: a label of at most 64
bytes before its first NUL must stand in the field with a NUL after it, one of 65 bytes must be the whole field, and a longer one
is never found. It is also what is decided about the whole field, with all that follows its NUL. -/
theorem decision_of_probe (c : Libc τ σ) {s : σ} (hr : 0 ≤ (c.uname s).1.1) (label : String) :
    ∃ i, (c.kernel.probe s).value = .ok i ∧
      (i.decision label = .skip ↔ (c.uname s).1.2.sysname.Spells (Bytes.ofString label).beforeNul) ∧
      (65 < (Bytes.ofString label).beforeNul.length → i.decision label = .toggle) ∧
      ∀ j : Identity, j.sysname = (c.uname s).1.2.sysname.bytes → i.decision label = j.decision label := by
  have hs := (c.uname s).1.2.decision_eq_skip_iff_spells label
  refine ⟨(c.uname s).1.2.identity, c.probe_value hr, hs, ?_, ?_⟩
  · intro hl
    cases hd : (c.uname s).1.2.identity.decision label with
    | skip => exact absurd (hs.mp hd) (NameField.not_spells_of_wide _ hl)
    | toggle => rfl
  · intro j hj
    exact NameField.decision_read_eq _ _ j rfl hj label

/-- A label as wide as the name field, with most of its bytes past ASCII. -/
def wideLabel : String := String.ofList (List.replicate 32 'é' ++ ['a'])

/-- A host whose name is the wide label, so that no NUL ends it. -/
def wideHost : LibcScript UInt8 where
  uname := ⟨⟨(0, .store (.named (Bytes.ofString wideLabel))), some 5⟩, []⟩
  prctl := ⟨⟨0, none⟩, []⟩
  execvp := ⟨⟨none, some 2⟩, []⟩
  errno := 0

/-- The wide label is found without a NUL after it; with one more byte it is not. -/
theorem decision_of_probe_wide :
    0 ≤ (LibcScript.libc.uname wideHost).1.1 ∧
      ∃ i, (LibcScript.libc.kernel.probe wideHost).value = .ok i ∧ i.decision wideLabel = .skip ∧
        i.decision (wideLabel ++ "a") = .toggle := by
  have hr : 0 ≤ (LibcScript.libc.uname wideHost).1.1 := by decide
  obtain ⟨i, hi, hs, -, -⟩ := decision_of_probe LibcScript.libc hr wideLabel
  obtain ⟨j, hj, -, hw, -⟩ := decision_of_probe LibcScript.libc hr (wideLabel ++ "a")
  obtain rfl : i = j := Except.ok.inj (hi.symm.trans hj)
  exact ⟨hr, i, hi, hs.mpr (by decide), hw (by decide)⟩

end Libc

end KernelGuise
