import KernelGuise.Identity

/-!
# The system's name buffer

The C library reports the system's names in fixed-width fields of signed characters. A name shorter than its field ends at a
NUL and anything may follow; a name as wide as the field has no NUL at all. What is read from a field is what was stored, as far
as it fits (`NameField.read_store`).
-/

namespace KernelGuise

/-- One field of the name buffer: 65 signed characters. -/
abbrev NameField := Vector Int8 65

namespace NameField

/-- A byte string stored in a field: cut to the width, or filled up with NUL. -/
def store (bs : Bytes) : NameField := ⟨(((bs ++ List.replicate 65 0).take 65).map UInt8.toInt8).toArray, by simp⟩

/-- The bytes of a field, each character taken without its sign. -/
def bytes (f : NameField) : Bytes := f.toList.map Int8.toUInt8

/-- The name that a field holds: its characters before the first NUL, all of them when there is none. -/
def read (f : NameField) : Bytes := (f.toList.takeWhile (· != 0)).map Int8.toUInt8

/-- Only NUL is zero, with a sign or without. -/
theorem toUInt8_eq_zero_iff (c : Int8) : c.toUInt8 = 0 ↔ c = 0 := by
  constructor
  · intro h
    simpa using congrArg UInt8.toInt8 h
  · rintro rfl
    rfl

/-- A name is the bytes of its field before the first NUL. -/
theorem read_eq_beforeNul (f : NameField) : f.read = f.bytes.beforeNul := by
  unfold read bytes Bytes.beforeNul
  rw [List.takeWhile_map]
  congr 2
  funext c
  rw [Bool.eq_iff_iff]
  simp [toUInt8_eq_zero_iff]

theorem zero_notMem_read (f : NameField) : 0 ∉ f.read := by
  rw [read_eq_beforeNul]
  exact Bytes.zero_notMem_beforeNul _

/-- A field that stores a byte string holds its bytes, filled up with NUL and cut to the width. -/
theorem bytes_store (bs : Bytes) : (store bs).bytes = (bs ++ List.replicate 65 0).take 65 := by
  simp only [bytes, store, Vector.toList_mk, List.map_map]
  exact (List.map_congr_left fun b _ => by simp).trans (List.map_id _)

/-- A name that was stored is read back as far as it fits, up to its first NUL. -/
theorem read_store (bs : Bytes) : (store bs).read = Bytes.beforeNul (bs.take 65) := by
  rw [read_eq_beforeNul, bytes_store, List.take_append, List.take_replicate, Bytes.beforeNul_append_replicate]

end NameField

/-- The name buffer, as far as it tells an identity. -/
structure Utsname where
  sysname : NameField
  release : NameField
  machine : NameField
  deriving DecidableEq, Repr

namespace Utsname

/-- The buffer that stores an identity. -/
def store (i : Identity) : Utsname := ⟨.store i.sysname, .store i.release, .store i.machine⟩

/-- The identity that a buffer holds. -/
def identity (u : Utsname) : Identity := ⟨u.sysname.read, u.release.read, u.machine.read⟩

/-- The system name of a buffer is all of what counts of it: it is read up to its first NUL. -/
theorem beforeNul_sysname (u : Utsname) : u.identity.sysname.beforeNul = u.sysname.read :=
  Bytes.beforeNul_of_zero_notMem u.sysname.zero_notMem_read

/-- Nothing is requested when the name read from the buffer is the label up to its first NUL. -/
theorem decision_eq_skip_iff_read (u : Utsname) (label : String) :
    u.identity.decision label = .skip ↔ u.sysname.read = (Bytes.ofString label).beforeNul := by
  rw [Identity.decision_eq_skip_iff, beforeNul_sysname]

/-- A request is made when the name read from the buffer is another. -/
theorem decision_eq_toggle_iff_read (u : Utsname) (label : String) :
    u.identity.decision label = .toggle ↔ u.sysname.read ≠ (Bytes.ofString label).beforeNul := by
  rw [Identity.decision_eq_toggle_iff, beforeNul_sysname]

end Utsname

end KernelGuise
