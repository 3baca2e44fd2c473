import KernelGuise.Identity

/-!
# When a system name is a label

A system name is compared with a label byte by byte, in a field that is taken to be filled up with NUL, until a byte differs or both
have a NUL. Said place by place (`Bytes.AgreeTo`), that is what `Bytes.holds` decides (`Bytes.holds_iff_agreeTo`); said at once, it
is that the two byte strings are equal before their first NUL. On this the decision rests, and on nothing else of an identity
(`Identity.label_compared`).
-/

namespace KernelGuise

namespace Bytes

/-- The byte at a place, where the bytes past the end count as NUL. -/
def byteAt (bs : Bytes) (n : Nat) : UInt8 := bs.getD n 0

/-- A field agrees with a name to the end of the name: at each place that no NUL of the name comes before, the two have the same
byte. The name ends with its first NUL, or with the one that follows its last byte. -/
def AgreeTo (field name : Bytes) : Prop := ∀ n, (∀ m < n, name.byteAt m ≠ 0) → field.byteAt n = name.byteAt n

theorem byteAt_zero (bs : Bytes) : bs.byteAt 0 = bs.headD 0 := by
  cases bs <;> rfl

theorem byteAt_succ (bs : Bytes) (n : Nat) : bs.byteAt (n + 1) = byteAt bs.tail n := by
  cases bs <;> rfl

/-- Agreement is settled at the first place, and past it only if the name has no NUL there. -/
theorem agreeTo_iff (field name : Bytes) :
    field.AgreeTo name ↔ field.headD 0 = name.headD 0 ∧ (name.headD 0 ≠ 0 → AgreeTo field.tail name.tail) := by
  constructor
  · intro h
    have h0 := h 0 nofun
    rw [byteAt_zero, byteAt_zero] at h0
    refine ⟨h0, fun hz n hn => ?_⟩
    have hs := h (n + 1) fun m hm => by
      cases m with
      | zero => rwa [byteAt_zero]
      | succ m =>
        rw [byteAt_succ]
        exact hn m (Nat.lt_of_succ_lt_succ hm)
    rwa [byteAt_succ, byteAt_succ] at hs
  · rintro ⟨h0, ht⟩ n hn
    cases n with
    | zero => rwa [byteAt_zero, byteAt_zero]
    | succ n =>
      have hz := hn 0 (Nat.succ_pos n)
      rw [byteAt_zero] at hz
      rw [byteAt_succ, byteAt_succ]
      refine ht hz n fun m hm => ?_
      rw [← byteAt_succ]
      exact hn (m + 1) (Nat.succ_lt_succ hm)

/-- A field holds a name when it agrees with it to the end. -/
theorem holds_iff_agreeTo (field name : Bytes) : field.holds name = true ↔ field.AgreeTo name := by
  induction name generalizing field with
  | nil =>
    rw [agreeTo_iff, holds]
    simp
  | cons b name ih =>
    rw [agreeTo_iff, holds, Bool.and_eq_true, Bool.or_eq_true, ih field.tail, beq_iff_eq, beq_iff_eq, List.headD_cons,
      List.tail_cons, Decidable.or_iff_not_imp_left]

end Bytes

namespace Identity

/-- An identity bears a label exactly when its system name and the label have the same bytes before their first NUL, where a byte
string without NUL counts as a whole; that is so exactly when the two agree place by place to the end of the label. Then the
request is skipped, and otherwise it is made. -/
theorem label_compared (i : Identity) (label : String) :
    (i.bears label = true ↔ i.sysname.beforeNul = (Bytes.ofString label).beforeNul) ∧
    (i.bears label = true ↔ i.sysname.AgreeTo (Bytes.ofString label)) ∧
    i.decision label = if i.sysname.beforeNul = (Bytes.ofString label).beforeNul then .skip else .toggle := by
  have hb := i.bears_iff label
  refine ⟨hb, Bytes.holds_iff_agreeTo _ _, ?_⟩
  by_cases h : i.sysname.beforeNul = (Bytes.ofString label).beforeNul
  · rw [if_pos h]
    exact (i.decision_eq_skip_iff label).mpr h
  · rw [if_neg h]
    exact (i.decision_eq_toggle_iff label).mpr h

/-- A NUL ends a name on either side, so that what follows it is not compared. -/
example : (named (Bytes.ofString "Linux\x00x")).decision "Linux\x00y" = .skip ∧
    (named (Bytes.ofString "Linux\x00x")).decision "Linuxx" = .toggle := by decide

end Identity

end KernelGuise
