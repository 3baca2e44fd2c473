import KernelGuise.Proofs.HostCourse
import KernelGuise.Proofs.HostName
import KernelGuise.Proofs.LabelComparison

/-!
# Names stored and read back

A host stores each of its names in a field of signed characters: the name's bytes place by place, cut to the width of the field, and
NUL where the name has ended. After the first NUL anything may stand (`NameField.Stores`). Reading takes such a field back to the
name, as far as it fits and up to its first NUL, and no other field gives that name (`NameField.stores_iff_read`). So a name that has
been read has no NUL, is no longer than a field, and is read again when it is stored again; these are the only names of which that
is so (`NameField.read_store_eq_iff`).
-/

namespace KernelGuise

namespace Bytes

/-- The bytes at the places of a front are those of the whole; past the front there is NUL. -/
theorem byteAt_take (bs : Bytes) (k n : Nat) : byteAt (bs.take k) n = if n < k then bs.byteAt n else 0 := by
  simp only [byteAt, List.getD_eq_getElem?_getD, List.getElem?_take]
  split <;> rfl

end Bytes

namespace NameField

/-- A field stores a byte string when it has the string's bytes, as signed characters, up to the first NUL, where the bytes past the
string's end count as NUL. What stands after the first NUL is open, and so are the bytes that do not fit. -/
def Stores (f : NameField) (bs : Bytes) : Prop := ∀ n (_ : n < 65), (∀ m < n, bs.byteAt m ≠ 0) → f[n] = (bs.byteAt n).toInt8

instance (f : NameField) (bs : Bytes) : Decidable (f.Stores bs) := inferInstanceAs (Decidable (∀ n (_ : n < 65), _))

/-! ## Place by place -/

/-- A byte of a field is the character at its place, without its sign. -/
theorem byteAt_bytes (f : NameField) {n : Nat} (h : n < 65) : f.bytes.byteAt n = f[n].toUInt8 := by
  have hn : n < f.bytes.length := by rwa [length_bytes]
  rw [Bytes.byteAt, List.getD_eq_getElem?_getD, List.getElem?_eq_getElem hn]
  simp [bytes]

theorem byteAt_bytes_of_le (f : NameField) {n : Nat} (h : 65 ≤ n) : f.bytes.byteAt n = 0 := by
  have hn : f.bytes.length ≤ n := by rwa [length_bytes]
  rw [Bytes.byteAt, List.getD_eq_getElem?_getD, List.getElem?_eq_none hn]
  rfl

/-- A character is that of a byte exactly when the byte is the character without its sign. -/
theorem eq_toInt8_iff (c : Int8) (b : UInt8) : c = b.toInt8 ↔ c.toUInt8 = b := by
  constructor
  · rintro rfl
    exact b.toUInt8_toInt8
  · rintro rfl
    exact c.toInt8_toUInt8.symm

/-- A field stores a byte string when its bytes agree with those that fit of the string, to the end of the name there. -/
theorem stores_iff_agreeTo (f : NameField) (bs : Bytes) : f.Stores bs ↔ f.bytes.AgreeTo (bs.take 65) := by
  constructor
  · intro h n hn
    by_cases hlt : n < 65
    · have hbefore : ∀ m < n, bs.byteAt m ≠ 0 := by
        intro m hm
        have hz := hn m hm
        rwa [Bytes.byteAt_take, if_pos (Nat.lt_trans hm hlt)] at hz
      rw [f.byteAt_bytes hlt, Bytes.byteAt_take, if_pos hlt]
      exact (eq_toInt8_iff _ _).mp (h n hlt hbefore)
    -- Past the width the field has ended, and so has what fits of the string.
    · rw [f.byteAt_bytes_of_le (Nat.le_of_not_lt hlt), Bytes.byteAt_take, if_neg hlt]
  · intro h n hlt hn
    have hbefore : ∀ m < n, Bytes.byteAt (bs.take 65) m ≠ 0 := by
      intro m hm
      rw [Bytes.byteAt_take, if_pos (Nat.lt_trans hm hlt)]
      exact hn m hm
    have hb := h n hbefore
    rw [f.byteAt_bytes hlt, Bytes.byteAt_take, if_pos hlt] at hb
    exact (eq_toInt8_iff _ _).mpr hb

/-! ## Reading -/

/-- Reading inverts storing: the fields that store a byte string are those from which the bytes that fit of it are read, up to the
first NUL. -/
theorem stores_iff_read (f : NameField) (bs : Bytes) : f.Stores bs ↔ f.read = Bytes.beforeNul (bs.take 65) := by
  rw [stores_iff_agreeTo, ← Bytes.holds_iff_agreeTo, Bytes.holds_iff, read_eq_beforeNul]

/-- A name that is read is no wider than the field. -/
theorem length_read_le (f : NameField) : f.read.length ≤ 65 := by
  rw [read_eq_beforeNul, ← f.length_bytes]
  exact (List.takeWhile_sublist _).length_le

/-- What is read back unchanged is what has no NUL and fits. -/
theorem read_store_eq_iff (bs : Bytes) : (store bs).read = bs ↔ 0 ∉ bs ∧ bs.length ≤ 65 := by
  constructor
  · intro h
    rw [← h]
    exact ⟨zero_notMem_read _, length_read_le _⟩
  · rintro ⟨hz, hl⟩
    rw [read_store, List.take_of_length_le hl, Bytes.beforeNul_of_zero_notMem hz]

/-- A name that was read is read back when it is stored. -/
theorem read_store_read (f : NameField) : (store f.read).read = f.read :=
  (read_store_eq_iff _).mpr ⟨f.zero_notMem_read, f.length_read_le⟩

end NameField

namespace Utsname

/-- A name buffer stores an identity, each name in its own field. -/
structure Stores (u : Utsname) (names : Identity) : Prop where
  sysname : u.sysname.Stores names.sysname
  release : u.release.Stores names.release
  machine : u.machine.Stores names.machine

/-- The identity in a buffer is what fits of the names that it stores, each up to its first NUL. -/
theorem stores_iff_identity (u : Utsname) (names : Identity) :
    u.Stores names ↔ u.identity = ⟨Bytes.beforeNul (names.sysname.take 65), Bytes.beforeNul (names.release.take 65),
      Bytes.beforeNul (names.machine.take 65)⟩ := by
  rw [identity, Identity.mk.injEq, ← NameField.stores_iff_read, ← NameField.stores_iff_read, ← NameField.stores_iff_read]
  constructor
  · rintro ⟨hs, hr, hm⟩
    exact ⟨hs, hr, hm⟩
  · rintro ⟨hs, hr, hm⟩
    exact ⟨hs, hr, hm⟩

end Utsname

namespace Libc

variable {τ σ : Type}

/-- A host answers with the identity in its buffer, unless it returns a negative number. -/
theorem value_queryIdentity_eq_ok_iff (c : Libc τ σ) (s : σ) (i : Identity) :
    (c.kernel.queryIdentity s).value = .ok i ↔ 0 ≤ (c.uname s).1.1 ∧ i = (c.uname s).1.2.identity := by
  rcases hu : c.uname s with ⟨⟨ret, names⟩, s₁⟩
  by_cases hr : ret < 0
  · rw [queryIdentity_of_neg hu hr]
    constructor
    · nofun
    · rintro ⟨hn, -⟩
      exact absurd hr (Int32.not_lt.mpr hn)
  · have hr := Int32.not_lt.mp hr
    rw [queryIdentity_of_nonneg hu hr, Except.ok.injEq]
    constructor
    · rintro rfl
      exact ⟨hr, rfl⟩
    · rintro ⟨-, rfl⟩
      rfl

/-- A host is heard exactly when it returns no negative number, and then its answer inverts what it has stored. Whatever stands
behind the first NUL of each field, the three names stored there come back each in its own place, cut to 65 bytes and to those before
the first NUL; and a buffer from which they come back so has stored them. Each name of the answer has no NUL and at most 65 bytes,
and comes back again when a field is filled up with it. -/
theorem identity_of_stored (c : Libc τ σ) (s : σ) :
    ((∃ i, (c.kernel.queryIdentity s).value = .ok i) ↔ 0 ≤ (c.uname s).1.1) ∧
      ∀ i, (c.kernel.queryIdentity s).value = .ok i →
        (∀ names : Identity, (c.uname s).1.2.Stores names ↔
          i = ⟨Bytes.beforeNul (names.sysname.take 65), Bytes.beforeNul (names.release.take 65),
            Bytes.beforeNul (names.machine.take 65)⟩) ∧
        ∀ name ∈ [i.sysname, i.release, i.machine],
          0 ∉ name ∧ name.length ≤ 65 ∧ (NameField.store name).read = name := by
  constructor
  · constructor
    · rintro ⟨i, hi⟩
      exact ((c.value_queryIdentity_eq_ok_iff s i).mp hi).1
    · intro hr
      exact ⟨_, (c.value_queryIdentity_eq_ok_iff s _).mpr ⟨hr, rfl⟩⟩
  · intro i hi
    obtain ⟨-, rfl⟩ := (c.value_queryIdentity_eq_ok_iff s i).mp hi
    refine ⟨fun names => (c.uname s).1.2.stores_iff_identity names, ?_⟩
    intro name hm
    -- Each of the three is read from a field, and what is stated holds of all that is.
    have hread : ∃ f : NameField, f.read = name := by
      simp only [List.mem_cons, List.not_mem_nil, or_false] at hm
      rcases hm with rfl | rfl | rfl
      · exact ⟨_, rfl⟩
      · exact ⟨_, rfl⟩
      · exact ⟨_, rfl⟩
    obtain ⟨f, rfl⟩ := hread
    exact ⟨f.zero_notMem_read, f.length_read_le, f.read_store_read⟩

/-- Names for a buffer: one that does not fit and has no ASCII byte, one with a NUL in it, and an empty one. -/
def oddNames : Identity := ⟨List.replicate 70 0xe9, Bytes.ofString "6.1\x00-rc", []⟩

/-- A host that stores the odd names, with other bytes than theirs after each NUL. -/
def oddHost : LibcScript UInt8 where
  uname := ⟨⟨(0, ⟨.store (List.replicate 65 0xe9), .store (Bytes.ofString "6.1\x00\x7f\x7f"),
    .store (0 :: List.replicate 64 0xff)⟩), none⟩, []⟩
  prctl := ⟨⟨0, none⟩, []⟩
  execvp := ⟨⟨none, some 2⟩, []⟩
  errno := 0

/-- The odd names come back as far as they fit and up to the first NUL, and nothing of what follows it. -/
theorem identity_of_stored_odd :
    (LibcScript.libc.uname oddHost).1.2.Stores oddNames ∧
      (LibcScript.libc.kernel.queryIdentity oddHost).value =
        .ok ⟨List.replicate 65 0xe9, Bytes.ofString "6.1", []⟩ ∧
      0 ∉ List.replicate 65 (0xe9 : UInt8) ∧ (NameField.store (List.replicate 65 0xe9)).read = List.replicate 65 0xe9 := by
  have hs : (LibcScript.libc.uname oddHost).1.2.Stores oddNames := ⟨by decide, by decide, by decide⟩
  obtain ⟨hok, hall⟩ := identity_of_stored LibcScript.libc oddHost
  obtain ⟨i, hi⟩ := hok.mpr (by decide)
  obtain ⟨hnames, hfields⟩ := hall i hi
  have hcut : i = ⟨List.replicate 65 0xe9, Bytes.ofString "6.1", []⟩ := (hnames oddNames).mp hs
  subst hcut
  obtain ⟨hz, -, hr⟩ := hfields _ List.mem_cons_self
  exact ⟨hs, hi, hz, hr⟩

end Libc

end KernelGuise
