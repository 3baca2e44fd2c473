import Mathlib.Data.List.TakeWhile
import KernelGuise.Text.Utf8

/-!
# Reading UTF-8

Statements about `Utf8.pieces`. Nothing is lost in reading: the pieces of a byte string, put together, are the byte string
(`flatMap_bytes_pieces`). What was written as characters is read as these characters (`pieces_encode`). A NUL is a piece of its
own, whatever stands before it, so a byte string can be read in two parts around a NUL (`pieces_append_nul`).

The machine's invariant is that a pending sequence begins characters: whatever bytes in range complete it, they complete the
UTF-8 form of the character that they spell (`Pending.Begins`).
-/

namespace KernelGuise.Utf8

open String (utf8EncodeChar)

/-! ## The UTF-8 form of a character -/

theorem toNat_charOfNat {n : Nat} (h : n.isValidChar) : (Char.ofNat n).toNat = n := by
  rw [Char.ofNat, dif_pos h]
  rfl

theorem encode_one {c : Char} (h : c.toNat < 0x80) : utf8EncodeChar c = [UInt8.ofNat c.toNat] := by
  simp only [utf8EncodeChar, Char.toNat_val]
  rw [if_pos (by omega)]

theorem encode_two {c : Char} (h : 0x80 ≤ c.toNat) (h' : c.toNat < 0x800) :
    utf8EncodeChar c = [UInt8.ofNat (c.toNat / 64 + 0xC0), UInt8.ofNat (c.toNat % 64 + 0x80)] := by
  simp only [utf8EncodeChar, Char.toNat_val]
  rw [if_neg (by omega), if_pos (by omega), Nat.mod_eq_of_lt (b := 0x20) (by omega)]

theorem encode_three {c : Char} (h : 0x800 ≤ c.toNat) (h' : c.toNat < 0x10000) :
    utf8EncodeChar c = [UInt8.ofNat (c.toNat / 4096 + 0xE0), UInt8.ofNat (c.toNat / 64 % 64 + 0x80),
      UInt8.ofNat (c.toNat % 64 + 0x80)] := by
  simp only [utf8EncodeChar, Char.toNat_val]
  rw [if_neg (by omega), if_neg (by omega), if_pos (by omega), Nat.mod_eq_of_lt (b := 0x10) (by omega)]

theorem encode_four {c : Char} (h : 0x10000 ≤ c.toNat) (h' : c.toNat < 0x110000) :
    utf8EncodeChar c = [UInt8.ofNat (c.toNat / 262144 + 0xF0), UInt8.ofNat (c.toNat / 4096 % 64 + 0x80),
      UInt8.ofNat (c.toNat / 64 % 64 + 0x80), UInt8.ofNat (c.toNat % 64 + 0x80)] := by
  simp only [utf8EncodeChar, Char.toNat_val]
  rw [if_neg (by omega), if_neg (by omega), if_neg (by omega), Nat.mod_eq_of_lt (b := 0x08) (by omega)]

theorem ofNat_eq {n : Nat} {b : UInt8} (h : n = b.toNat) : UInt8.ofNat n = b := by
  rw [h, UInt8.ofNat_toNat]

/-! ## What completes a sequence -/

/-- A byte that may follow within a sequence. -/
def IsTail (b : UInt8) : Prop := 0x80 ≤ b.toNat ∧ b.toNat ≤ 0xBF

/-- A first byte of two and a byte that may follow are the form of the character that they spell. -/
theorem complete_two {a b : UInt8} (ha : 0xC2 ≤ a.toNat) (ha' : a.toNat < 0xE0) (hb : IsTail b) :
    utf8EncodeChar (Char.ofNat ((a.toNat - 0xC0) * 64 + (b.toNat - 0x80))) = [a, b] := by
  obtain ⟨hb, hb'⟩ := hb
  have hn : (Char.ofNat ((a.toNat - 0xC0) * 64 + (b.toNat - 0x80))).toNat =
      (a.toNat - 0xC0) * 64 + (b.toNat - 0x80) := toNat_charOfNat (.inl (by omega))
  rw [encode_two (by omega) (by omega), hn, ofNat_eq (b := a) (by omega), ofNat_eq (b := b) (by omega)]

/-- The second byte's range rules out what two bytes could say and the surrogates. -/
theorem complete_three {a b c : UInt8} (ha : 0xE0 ≤ a.toNat) (ha' : a.toNat < 0xF0) (hb : IsTail b) (hc : IsTail c)
    (hlow : a.toNat = 0xE0 → 0xA0 ≤ b.toNat) (hhigh : a.toNat = 0xED → b.toNat ≤ 0x9F) :
    utf8EncodeChar (Char.ofNat (((a.toNat - 0xE0) * 64 + (b.toNat - 0x80)) * 64 + (c.toNat - 0x80))) = [a, b, c] := by
  obtain ⟨hb, hb'⟩ := hb
  obtain ⟨hc, hc'⟩ := hc
  have hn : (Char.ofNat (((a.toNat - 0xE0) * 64 + (b.toNat - 0x80)) * 64 + (c.toNat - 0x80))).toNat =
      ((a.toNat - 0xE0) * 64 + (b.toNat - 0x80)) * 64 + (c.toNat - 0x80) :=
    toNat_charOfNat (by unfold Nat.isValidChar; omega)
  rw [encode_three (by omega) (by omega), hn, ofNat_eq (b := a) (by omega), ofNat_eq (b := b) (by omega),
    ofNat_eq (b := c) (by omega)]

/-- The second byte's range rules out what three bytes could say and the numbers past the last character. -/
theorem complete_four {a b c d : UInt8} (ha : 0xF0 ≤ a.toNat) (ha' : a.toNat < 0xF5) (hb : IsTail b) (hc : IsTail c)
    (hd : IsTail d) (hlow : a.toNat = 0xF0 → 0x90 ≤ b.toNat) (hhigh : a.toNat = 0xF4 → b.toNat ≤ 0x8F) :
    utf8EncodeChar (Char.ofNat ((((a.toNat - 0xF0) * 64 + (b.toNat - 0x80)) * 64 + (c.toNat - 0x80)) * 64 +
      (d.toNat - 0x80))) = [a, b, c, d] := by
  obtain ⟨hb, hb'⟩ := hb
  obtain ⟨hc, hc'⟩ := hc
  obtain ⟨hd, hd'⟩ := hd
  have hn : (Char.ofNat ((((a.toNat - 0xF0) * 64 + (b.toNat - 0x80)) * 64 + (c.toNat - 0x80)) * 64 +
      (d.toNat - 0x80))).toNat = (((a.toNat - 0xF0) * 64 + (b.toNat - 0x80)) * 64 + (c.toNat - 0x80)) * 64 +
      (d.toNat - 0x80) := toNat_charOfNat (by unfold Nat.isValidChar; omega)
  rw [encode_four (by omega) (by omega), hn, ofNat_eq (b := a) (by omega), ofNat_eq (b := b) (by omega),
    ofNat_eq (b := c) (by omega), ofNat_eq (b := d) (by omega)]

/-- The number that bytes spell after a number that has begun. -/
def spell (number : Nat) (bs : Bytes) : Nat := bs.foldl (fun n b => n * 64 + (b.toNat - 0x80)) number

/-- Bytes complete a pending sequence: the first is in its range, and as many follow as it waits for. -/
def Pending.CompletedBy (p : Pending) : Bytes → Prop
  | [] => False
  | b :: tail => p.low ≤ b ∧ b ≤ p.high ∧ tail.length = p.after ∧ ∀ t ∈ tail, IsTail t

/-- A pending sequence begins characters: whatever completes it makes it the UTF-8 form of the character that it spells. Only
bytes in the upper half complete it. -/
structure Pending.Begins (p : Pending) : Prop where
  low_ge : 0x80 ≤ p.low
  completes : ∀ bs, p.CompletedBy bs → utf8EncodeChar (Char.ofNat (spell p.number bs)) = p.read ++ bs

/-- A bound that depends on the first byte, read as numbers. -/
theorem toNat_ite {a x lo lo' : UInt8} :
    (if a = x then lo else lo').toNat = if a.toNat = x.toNat then lo.toNat else lo'.toNat := by
  simp only [← UInt8.toNat_inj]
  split <;> rfl

/-- A first byte of two begins characters. -/
theorem begins_two {a : UInt8} (ha : 0xC2 ≤ a.toNat) (ha' : a.toNat < 0xE0) :
    Pending.Begins ⟨[a], a.toNat - 0xC0, 0x80, 0xBF, 0⟩ := by
  refine ⟨UInt8.le_refl _, fun bs hbs => ?_⟩
  rcases bs with _ | ⟨b, _ | ⟨c, rest⟩⟩
  · exact hbs.elim
  · obtain ⟨hb, hb', -, -⟩ := hbs
    exact complete_two ha ha' ⟨UInt8.le_iff_toNat_le.mp hb, UInt8.le_iff_toNat_le.mp hb'⟩
  · exact absurd hbs.2.2.1 (by simp)

/-- A first byte of three begins characters: its own bounds keep out forms that are too long, and surrogates. -/
theorem begins_three {a : UInt8} (ha : 0xE0 ≤ a.toNat) (ha' : a.toNat < 0xF0) :
    Pending.Begins ⟨[a], a.toNat - 0xE0, if a = 0xE0 then 0xA0 else 0x80, if a = 0xED then 0x9F else 0xBF, 1⟩ := by
  refine ⟨?_, fun bs hbs => ?_⟩
  · dsimp only
    split <;> decide
  rcases bs with _ | ⟨b, _ | ⟨c, _ | ⟨d, rest⟩⟩⟩
  · exact hbs.elim
  · exact absurd hbs.2.2.1 (by simp)
  · obtain ⟨hb, hb', -, ht⟩ := hbs
    simp only [UInt8.le_iff_toNat_le, toNat_ite, UInt8.reduceToNat] at hb hb'
    have hlow : (a.toNat = 0xE0 → 0xA0 ≤ b.toNat) ∧ 0x80 ≤ b.toNat := by split at hb <;> omega
    have hhigh : (a.toNat = 0xED → b.toNat ≤ 0x9F) ∧ b.toNat ≤ 0xBF := by split at hb' <;> omega
    exact complete_three ha ha' ⟨hlow.2, hhigh.2⟩ (ht c (by simp)) hlow.1 hhigh.1
  · exact absurd hbs.2.2.1 (by simp)

/-- A first byte of four begins characters: its own bounds keep out forms that are too long, and numbers that are too high. -/
theorem begins_four {a : UInt8} (ha : 0xF0 ≤ a.toNat) (ha' : a.toNat < 0xF5) :
    Pending.Begins ⟨[a], a.toNat - 0xF0, if a = 0xF0 then 0x90 else 0x80, if a = 0xF4 then 0x8F else 0xBF, 2⟩ := by
  refine ⟨?_, fun bs hbs => ?_⟩
  · dsimp only
    split <;> decide
  rcases bs with _ | ⟨b, _ | ⟨c, _ | ⟨d, _ | ⟨e, rest⟩⟩⟩⟩
  · exact hbs.elim
  · exact absurd hbs.2.2.1 (by simp)
  · exact absurd hbs.2.2.1 (by simp)
  · obtain ⟨hb, hb', -, ht⟩ := hbs
    simp only [UInt8.le_iff_toNat_le, toNat_ite, UInt8.reduceToNat] at hb hb'
    have hlow : (a.toNat = 0xF0 → 0x90 ≤ b.toNat) ∧ 0x80 ≤ b.toNat := by split at hb <;> omega
    have hhigh : (a.toNat = 0xF4 → b.toNat ≤ 0x8F) ∧ b.toNat ≤ 0xBF := by split at hb' <;> omega
    exact complete_four ha ha' ⟨hlow.2, hhigh.2⟩ (ht c (by simp)) (ht d (by simp)) hlow.1 hhigh.1
  · exact absurd hbs.2.2.1 (by simp)

/-- The sequence that a first byte begins does begin characters. -/
theorem begins_ofLead? {a : UInt8} {p : Pending} (h : Pending.ofLead? a = some p) : p.Begins := by
  unfold Pending.ofLead? at h
  simp only [UInt8.lt_iff_toNat_lt, UInt8.reduceToNat] at h
  split at h
  · cases h
  split at h
  · cases h
    exact begins_two (by omega) (by omega)
  split at h
  · cases h
    exact begins_three (by omega) (by omega)
  split at h
  · cases h
    exact begins_four (by omega) (by omega)
  · cases h

/-! ## One byte -/

/-- The bytes that a piece stands for. -/
def Piece.bytes : Piece → Bytes
  | .char c => utf8EncodeChar c
  | .bad bs => bs

/-- The bytes read of the sequence that is pending. -/
def held : Option Pending → Bytes
  | none => []
  | some p => p.read

/-- The invariant of the machine: what is pending begins characters. -/
def Sound : Option Pending → Prop
  | none => True
  | some p => p.Begins

theorem read_ofLead? {a : UInt8} {p : Pending} (h : Pending.ofLead? a = some p) : p.read = [a] := by
  unfold Pending.ofLead? at h
  repeat' split at h
  all_goals cases h
  all_goals rfl

/-- A byte where a character begins is a piece, or is held. -/
theorem start_spec (b : UInt8) :
    Sound (start b).2 ∧ (start b).1.flatMap Piece.bytes ++ held (start b).2 = [b] := by
  unfold start
  split
  · rename_i h
    rw [UInt8.lt_iff_toNat_lt] at h
    have hn : (Char.ofNat b.toNat).toNat = b.toNat := toNat_charOfNat (.inl (Nat.lt_trans h (by decide)))
    refine ⟨trivial, ?_⟩
    have he : utf8EncodeChar (Char.ofNat b.toNat) = [b] := by
      rw [encode_one (by rw [hn]; exact h), hn, UInt8.ofNat_toNat]
    simp [Piece.bytes, held, he]
  · split
    · rename_i p hp
      exact ⟨begins_ofLead? hp, by simp [held, read_ofLead? hp]⟩
    · exact ⟨trivial, by simp [Piece.bytes, held]⟩

/-- A byte in range completes the character that the sequence spells, or is held with the rest. -/
theorem extend_spec {p : Pending} (h : p.Begins) {b : UInt8} (hb : p.low ≤ b) (hb' : b ≤ p.high) :
    Sound (p.extend b).2 ∧ (p.extend b).1.flatMap Piece.bytes ++ held (p.extend b).2 = p.read ++ [b] := by
  unfold Pending.extend
  split
  · rename_i ha
    have hc := h.completes [b] ⟨hb, hb', ha.symm, by simp⟩
    refine ⟨trivial, ?_⟩
    simp only [spell, List.foldl_cons, List.foldl_nil] at hc
    simp [Piece.bytes, held, hc]
  · rename_i n ha
    refine ⟨⟨UInt8.le_refl _, fun bs hbs => ?_⟩, rfl⟩
    rcases bs with _ | ⟨t, tail⟩
    · exact hbs.elim
    · obtain ⟨ht, ht', hl, hts⟩ := hbs
      -- the bytes that complete the longer sequence complete the shorter one after `b`
      have hc := h.completes (b :: t :: tail) ⟨hb, hb', by simp [hl, ha], by
        intro x hx
        rcases List.mem_cons.mp hx with rfl | hx
        · exact ⟨UInt8.le_iff_toNat_le.mp ht, UInt8.le_iff_toNat_le.mp ht'⟩
        · exact hts x hx⟩
      simp only [spell, List.foldl_cons] at hc ⊢
      rw [List.append_assoc]
      exact hc

/-- One byte keeps the invariant, and loses nothing: what was held and the byte are in the new pieces or are held. -/
theorem step_spec {q : Option Pending} (h : Sound q) (b : UInt8) :
    Sound (step q b).2 ∧ (step q b).1.flatMap Piece.bytes ++ held (step q b).2 = held q ++ [b] := by
  cases q with
  | none => exact start_spec b
  | some p =>
    by_cases hb : p.low ≤ b ∧ b ≤ p.high
    · rw [step, if_pos hb]
      exact extend_spec h hb.1 hb.2
    · obtain ⟨hs, he⟩ := start_spec b
      rw [step, if_neg hb]
      refine ⟨hs, ?_⟩
      rw [List.flatMap_cons, List.append_assoc, he]
      rfl

/-- A NUL completes nothing: it ends what is pending, and is a character. -/
theorem step_nul {q : Option Pending} (h : Sound q) : step q 0 = (finish q ++ [.char '\x00'], none) := by
  cases q with
  | none => rfl
  | some p =>
    have hlow : ¬(p.low ≤ 0 ∧ 0 ≤ p.high) := fun hp => absurd (UInt8.le_trans h.low_ge hp.1) (by decide)
    rw [step, if_neg hlow]
    rfl

/-! ## A whole byte string -/

/-- What is held and what follows it are all that the pieces are made of. -/
theorem flatMap_bytes_scan {q : Option Pending} (h : Sound q) (bs : Bytes) :
    (scan q bs).flatMap Piece.bytes = held q ++ bs := by
  induction bs generalizing q with
  | nil =>
    cases q with
    | none => rfl
    | some p => simp [scan, finish, held, Piece.bytes]
  | cons b bs ih =>
    obtain ⟨hs, he⟩ := step_spec h b
    rw [scan, List.flatMap_append, ih hs, ← List.append_assoc, he, List.append_assoc]
    rfl

/-- The pieces of a byte string, put together, are the byte string. -/
theorem flatMap_bytes_pieces (bs : Bytes) : (pieces bs).flatMap Piece.bytes = bs :=
  flatMap_bytes_scan (q := none) trivial bs

/-- A NUL ends what is held, and what follows is read from the start. -/
theorem scan_append_nul {q : Option Pending} (h : Sound q) (as bs : Bytes) :
    scan q (as ++ 0 :: bs) = scan q as ++ .char '\x00' :: scan none bs := by
  induction as generalizing q with
  | nil =>
    change (step q 0).1 ++ scan (step q 0).2 bs = finish q ++ .char '\x00' :: scan none bs
    rw [step_nul h, List.append_assoc]
    rfl
  | cons a as ih =>
    rw [List.cons_append, scan, scan, ih (step_spec h a).1, List.append_assoc]

/-- A NUL is a piece of its own, and what stands before it is read as if it ended there. -/
theorem pieces_append_nul (as bs : Bytes) : pieces (as ++ 0 :: bs) = pieces as ++ .char '\x00' :: pieces bs :=
  scan_append_nul (q := none) trivial as bs

/-! ## What was written as characters -/

/-- Bytes that complete a pending sequence are read as the character that they spell. -/
theorem scan_completed {p : Pending} {cs : Bytes} (h : p.CompletedBy cs) (bs : Bytes) :
    scan (some p) (cs ++ bs) = .char (Char.ofNat (spell p.number cs)) :: scan none bs := by
  induction cs generalizing p with
  | nil => exact h.elim
  | cons b tail ih =>
    obtain ⟨hb, hb', hl, ht⟩ := h
    rw [List.cons_append, scan, step, if_pos ⟨hb, hb'⟩]
    rcases tail with _ | ⟨t, tail⟩
    · have ha : p.after = 0 := hl.symm
      rw [Pending.extend]
      simp [ha, spell]
    · have ha : p.after = tail.length + 1 := hl.symm
      obtain ⟨ht1, ht2⟩ := ht t List.mem_cons_self
      have hp : (Pending.mk (p.read ++ [b]) (p.number * 64 + (b.toNat - 0x80)) 0x80 0xBF tail.length).CompletedBy
          (t :: tail) :=
        ⟨UInt8.le_iff_toNat_le.mpr ht1, UInt8.le_iff_toNat_le.mpr ht2, rfl,
          fun x hx => ht x (List.mem_cons_of_mem t hx)⟩
      have ih' := ih hp
      simp only [spell, List.foldl_cons] at ih' ⊢
      rw [Pending.extend]
      simp only [ha, List.nil_append]
      exact ih'

theorem ofLead?_two {a : UInt8} (h : 0xC2 ≤ a.toNat) (h' : a.toNat < 0xE0) :
    Pending.ofLead? a = some ⟨[a], a.toNat - 0xC0, 0x80, 0xBF, 0⟩ := by
  simp only [Pending.ofLead?, UInt8.lt_iff_toNat_lt, UInt8.reduceToNat]
  rw [if_neg (by omega), if_pos h']

theorem ofLead?_three {a : UInt8} (h : 0xE0 ≤ a.toNat) (h' : a.toNat < 0xF0) :
    Pending.ofLead? a = some ⟨[a], a.toNat - 0xE0, if a = 0xE0 then 0xA0 else 0x80, if a = 0xED then 0x9F else 0xBF, 1⟩ := by
  simp only [Pending.ofLead?, UInt8.lt_iff_toNat_lt, UInt8.reduceToNat]
  rw [if_neg (by omega), if_neg (by omega), if_pos h']

theorem ofLead?_four {a : UInt8} (h : 0xF0 ≤ a.toNat) (h' : a.toNat < 0xF5) :
    Pending.ofLead? a = some ⟨[a], a.toNat - 0xF0, if a = 0xF0 then 0x90 else 0x80, if a = 0xF4 then 0x8F else 0xBF, 2⟩ := by
  simp only [Pending.ofLead?, UInt8.lt_iff_toNat_lt, UInt8.reduceToNat]
  rw [if_neg (by omega), if_neg (by omega), if_neg (by omega), if_pos h']

/-- A first byte that is not ASCII and the bytes that complete it are one character. -/
theorem scan_lead {a : UInt8} {p : Pending} (cs : Bytes) (ha : 0x80 ≤ a.toNat) (hp : Pending.ofLead? a = some p)
    (hc : p.CompletedBy cs) (bs : Bytes) :
    scan none (a :: cs ++ bs) = .char (Char.ofNat (spell p.number cs)) :: scan none bs := by
  have hn : ¬a < 0x80 := by
    rw [UInt8.lt_iff_toNat_lt]
    exact Nat.not_lt.mpr ha
  rw [List.cons_append, scan, step, start, if_neg hn, hp]
  exact scan_completed hc bs

/-- Two bytes that belong together are read as the character that they spell. -/
theorem scan_two {a b : UInt8} (ha : 0xC2 ≤ a.toNat) (ha' : a.toNat < 0xE0) (hb : IsTail b) (bs : Bytes) :
    scan none (a :: b :: bs) = .char (Char.ofNat ((a.toNat - 0xC0) * 64 + (b.toNat - 0x80))) :: scan none bs := by
  refine scan_lead [b] (by omega) (ofLead?_two ha ha') ?_ bs
  exact ⟨UInt8.le_iff_toNat_le.mpr hb.1, UInt8.le_iff_toNat_le.mpr hb.2, rfl, by simp⟩

theorem scan_three {a b c : UInt8} (ha : 0xE0 ≤ a.toNat) (ha' : a.toNat < 0xF0) (hb : IsTail b) (hc : IsTail c)
    (hlow : a.toNat = 0xE0 → 0xA0 ≤ b.toNat) (hhigh : a.toNat = 0xED → b.toNat ≤ 0x9F) (bs : Bytes) :
    scan none (a :: b :: c :: bs) =
      .char (Char.ofNat (((a.toNat - 0xE0) * 64 + (b.toNat - 0x80)) * 64 + (c.toNat - 0x80))) :: scan none bs := by
  obtain ⟨hb, hb'⟩ := hb
  refine scan_lead [b, c] (by omega) (ofLead?_three ha ha') ⟨?_, ?_, rfl, by simpa using hc⟩ bs
  · simp only [UInt8.le_iff_toNat_le, toNat_ite, UInt8.reduceToNat]
    split <;> omega
  · simp only [UInt8.le_iff_toNat_le, toNat_ite, UInt8.reduceToNat]
    split <;> omega

theorem scan_four {a b c d : UInt8} (ha : 0xF0 ≤ a.toNat) (ha' : a.toNat < 0xF5) (hb : IsTail b) (hc : IsTail c)
    (hd : IsTail d) (hlow : a.toNat = 0xF0 → 0x90 ≤ b.toNat) (hhigh : a.toNat = 0xF4 → b.toNat ≤ 0x8F) (bs : Bytes) :
    scan none (a :: b :: c :: d :: bs) =
      .char (Char.ofNat ((((a.toNat - 0xF0) * 64 + (b.toNat - 0x80)) * 64 + (c.toNat - 0x80)) * 64 + (d.toNat - 0x80))) ::
        scan none bs := by
  obtain ⟨hb, hb'⟩ := hb
  refine scan_lead [b, c, d] (by omega) (ofLead?_four ha ha') ⟨?_, ?_, rfl, by simpa using ⟨hc, hd⟩⟩ bs
  · simp only [UInt8.le_iff_toNat_le, toNat_ite, UInt8.reduceToNat]
    split <;> omega
  · simp only [UInt8.le_iff_toNat_le, toNat_ite, UInt8.reduceToNat]
    split <;> omega

theorem toNat_ofNat_of_lt {n : Nat} (h : n < 256) : (UInt8.ofNat n).toNat = n := by
  rw [UInt8.toNat_ofNat']
  exact Nat.mod_eq_of_lt h

/-- A byte of six bits after the mark of a following byte. -/
theorem isTail_ofNat (n : Nat) : IsTail (UInt8.ofNat (n % 64 + 0x80)) := by
  rw [IsTail, toNat_ofNat_of_lt (by omega)]
  omega

/-- A character's UTF-8 form is read as the character. -/
theorem scan_encode (c : Char) (bs : Bytes) : scan none (utf8EncodeChar c ++ bs) = .char c :: scan none bs := by
  have hv : c.toNat.isValidChar := c.valid
  unfold Nat.isValidChar at hv
  have h0 := toNat_ofNat_of_lt (n := c.toNat % 64 + 0x80) (by omega)
  have h1 := toNat_ofNat_of_lt (n := c.toNat / 64 % 64 + 0x80) (by omega)
  have h2 := toNat_ofNat_of_lt (n := c.toNat / 4096 % 64 + 0x80) (by omega)
  by_cases ha : c.toNat < 0x80
  · have hn := toNat_ofNat_of_lt (n := c.toNat) (by omega)
    have hlt : UInt8.ofNat c.toNat < 0x80 := by
      rw [UInt8.lt_iff_toNat_lt, hn]
      exact ha
    rw [encode_one ha, List.singleton_append, scan, step, start, if_pos hlt, hn, Char.ofNat_toNat]
    rfl
  by_cases hb : c.toNat < 0x800
  · have hn := toNat_ofNat_of_lt (n := c.toNat / 64 + 0xC0) (by omega)
    have hs := scan_two (a := UInt8.ofNat (c.toNat / 64 + 0xC0)) (by omega) (by omega) (isTail_ofNat c.toNat) bs
    rw [hn, h0, show (c.toNat / 64 + 0xC0 - 0xC0) * 64 + (c.toNat % 64 + 0x80 - 0x80) = c.toNat by omega,
      Char.ofNat_toNat] at hs
    rw [encode_two (by omega) hb]
    exact hs
  by_cases hc : c.toNat < 0x10000
  · have hn := toNat_ofNat_of_lt (n := c.toNat / 4096 + 0xE0) (by omega)
    have hs := scan_three (a := UInt8.ofNat (c.toNat / 4096 + 0xE0)) (by omega) (by omega) (isTail_ofNat (c.toNat / 64))
      (isTail_ofNat c.toNat) (by omega) (by omega) bs
    rw [hn, h0, h1, show ((c.toNat / 4096 + 0xE0 - 0xE0) * 64 + (c.toNat / 64 % 64 + 0x80 - 0x80)) * 64 +
      (c.toNat % 64 + 0x80 - 0x80) = c.toNat by omega, Char.ofNat_toNat] at hs
    rw [encode_three (by omega) hc]
    exact hs
  · have hn := toNat_ofNat_of_lt (n := c.toNat / 262144 + 0xF0) (by omega)
    have hs := scan_four (a := UInt8.ofNat (c.toNat / 262144 + 0xF0)) (by omega) (by omega)
      (isTail_ofNat (c.toNat / 4096)) (isTail_ofNat (c.toNat / 64)) (isTail_ofNat c.toNat) (by omega) (by omega) bs
    rw [hn, h0, h1, h2, show (((c.toNat / 262144 + 0xF0 - 0xF0) * 64 + (c.toNat / 4096 % 64 + 0x80 - 0x80)) * 64 +
      (c.toNat / 64 % 64 + 0x80 - 0x80)) * 64 + (c.toNat % 64 + 0x80 - 0x80) = c.toNat by omega, Char.ofNat_toNat] at hs
    rw [encode_four (by omega) (by omega)]
    exact hs

/-- What was written as characters is read as these characters. -/
theorem pieces_encode (cs : List Char) (bs : Bytes) :
    pieces (cs.flatMap utf8EncodeChar ++ bs) = cs.map .char ++ pieces bs := by
  induction cs with
  | nil => rfl
  | cons c cs ih =>
    rw [List.flatMap_cons, List.append_assoc, pieces, scan_encode]
    exact congrArg _ ih

/-! ## What shows -/

/-- A NUL byte stands in the UTF-8 form of the NUL character only. -/
theorem eq_nul_of_zero_mem_encode {c : Char} (h : (0 : UInt8) ∈ utf8EncodeChar c) : c = '\x00' := by
  have hv : c.toNat.isValidChar := c.valid
  unfold Nat.isValidChar at hv
  -- no byte of a longer form is zero
  have hn : ∀ {n : Nat}, n < 256 → (0 : UInt8) = UInt8.ofNat n → n = 0 := fun hlt he => by
    have ht := toNat_ofNat_of_lt hlt
    rw [← he] at ht
    exact ht.symm
  by_cases ha : c.toNat < 0x80
  · rw [encode_one ha, List.mem_singleton] at h
    exact Char.toNat_inj.mp (hn (by omega) h)
  by_cases hb : c.toNat < 0x800
  · rw [encode_two (by omega) hb] at h
    simp only [List.mem_cons, List.not_mem_nil, or_false] at h
    rcases h with h | h <;> exact absurd (hn (by omega) h) (by omega)
  by_cases hc : c.toNat < 0x10000
  · rw [encode_three (by omega) hc] at h
    simp only [List.mem_cons, List.not_mem_nil, or_false] at h
    rcases h with h | h | h <;> exact absurd (hn (by omega) h) (by omega)
  · rw [encode_four (by omega) (by omega)] at h
    simp only [List.mem_cons, List.not_mem_nil, or_false] at h
    rcases h with h | h | h | h <;> exact absurd (hn (by omega) h) (by omega)

/-- The bytes of a text before their first NUL are those of the text before its first NUL. -/
theorem beforeNul_encode (cs : List Char) :
    Bytes.beforeNul (cs.flatMap utf8EncodeChar) = (cs.takeWhile (· != '\x00')).flatMap utf8EncodeChar := by
  induction cs with
  | nil => rfl
  | cons c cs ih =>
    by_cases h : c = '\x00'
    · rw [h]
      rfl
    · have hz : ∀ b ∈ utf8EncodeChar c, (b != 0) = true := fun b hb =>
        bne_iff_ne.mpr fun he => h (eq_nul_of_zero_mem_encode (he ▸ hb))
      have hc : (c :: cs).takeWhile (· != '\x00') = c :: cs.takeWhile (· != '\x00') :=
        List.takeWhile_cons_of_pos (bne_iff_ne.mpr h)
      rw [List.flatMap_cons, Bytes.beforeNul, List.takeWhile_append_of_pos hz, hc, List.flatMap_cons]
      exact congrArg _ ih

/-- The UTF-8 form of a text shows as the text. -/
theorem lossyChars_encode (cs : List Char) : lossyChars (cs.flatMap utf8EncodeChar) = cs := by
  have h := pieces_encode cs []
  rw [List.append_nil, show pieces [] = [] from rfl, List.append_nil] at h
  rw [lossyChars, h, List.map_map]
  exact List.map_id cs

/-- Whatever belongs to no character shows as a replacement character: text that shows none is the text of the bytes. -/
theorem flatMap_encode_lossyChars {bs : Bytes} (h : '\uFFFD' ∉ lossyChars bs) :
    (lossyChars bs).flatMap utf8EncodeChar = bs := by
  have hp : ∀ p ∈ pieces bs, utf8EncodeChar p.shown = p.bytes := by
    intro p hp
    cases p with
    | char c => rfl
    | bad _ => exact absurd (List.mem_map_of_mem hp) h
  conv => rhs; rw [← flatMap_bytes_pieces bs]
  rw [lossyChars, List.flatMap_map]
  unfold List.flatMap
  rw [List.map_congr_left hp]

/-- A NUL shows only where one is read. -/
theorem zero_mem_of_nul_mem_lossyChars {bs : Bytes} (h : '\x00' ∈ lossyChars bs) : 0 ∈ bs := by
  obtain ⟨p, hp, hs⟩ := List.mem_map.mp h
  cases p with
  | char c =>
    rw [← flatMap_bytes_pieces bs]
    refine List.mem_flatMap.mpr ⟨.char c, hp, ?_⟩
    rw [show c = '\x00' from hs]
    decide
  | bad _ => exact absurd (show '\uFFFD' = '\x00' from hs) (by decide)

/-- Reading and cutting at the first NUL commute. -/
theorem takeWhile_lossyChars (bs : Bytes) : (lossyChars bs).takeWhile (· != '\x00') = lossyChars bs.beforeNul := by
  by_cases h : 0 ∈ bs
  · obtain ⟨as, rest, rfl, ha⟩ := List.eq_append_cons_of_mem h
    have hz : ∀ b ∈ as, (b != 0) = true := fun b hb => bne_iff_ne.mpr fun he => ha (he ▸ hb)
    have hb : Bytes.beforeNul (as ++ 0 :: rest) = as := by
      rw [Bytes.beforeNul, List.takeWhile_append_of_pos hz]
      exact List.append_nil as
    have hl : ∀ c ∈ lossyChars as, (c != '\x00') = true := fun c hc =>
      bne_iff_ne.mpr fun he => ha (zero_mem_of_nul_mem_lossyChars (he ▸ hc))
    rw [hb, lossyChars, pieces_append_nul, List.map_append, ← lossyChars, List.takeWhile_append_of_pos hl]
    exact List.append_nil _
  · have hb : bs.beforeNul = bs :=
      List.takeWhile_eq_self_iff.mpr fun b hb => bne_iff_ne.mpr fun he => h (he ▸ hb)
    rw [hb]
    exact List.takeWhile_eq_self_iff.mpr fun c hc =>
      bne_iff_ne.mpr fun he => h (zero_mem_of_nul_mem_lossyChars (he ▸ hc))

end KernelGuise.Utf8
