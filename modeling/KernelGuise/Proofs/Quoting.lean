import KernelGuise.Proofs.Session
import KernelGuise.Proofs.Utf8
import KernelGuise.Text.Hex
import KernelGuise.Text.Hidden

/-!
# Reading quotes back

The log names a command on one line, as a list of byte strings in quotes. Here is the reader of such a list (`readList`): a machine
that goes over the text and has one escape pending at most. Whatever the writer makes of a piece of a byte string, the reader takes
it for the bytes of that piece (`read_ofPiece`), and so it gets back what was written, byte for byte (`readList_quotedList`). It
needs not know which characters the writer takes for hidden. So a text in quotes is that of one byte string only (`quoted_inj`).

What is written shows: it holds no control character, and so no end of a line (`shows_of_mem_quotedList`).
-/

namespace KernelGuise

namespace Quoted

open String (utf8EncodeChar)
open Utf8 (Piece pieces)

/-! ## The reader -/

/-- Where a reader stands in a text: outside the quotes, or inside them, with the bytes that it has read since they opened. -/
inductive Place where
  /-- Outside the quotes. -/
  | outside
  /-- Inside, where a character stands for itself. -/
  | inside (bs : Bytes)
  /-- After a backslash. -/
  | escape (bs : Bytes)
  /-- In the number of a character, which is written in braces. -/
  | number (bs : Bytes) (value : Nat)
  /-- At the first digit of a byte. -/
  | byte (bs : Bytes)
  /-- At the second digit of a byte. -/
  | lastDigit (bs : Bytes) (value : Nat)
  deriving DecidableEq, Repr

/-- A number with one more hexadecimal digit. -/
def withDigit (value : Nat) (digit : Char) : Nat := 16 * value + (Hex.value? digit).getD 0

/-- The character that stands behind a backslash for another one, or for itself. -/
def ofShort : Char → Char
  | '0' => '\x00'
  | 't' => '\t'
  | 'n' => '\n'
  | 'r' => '\r'
  | c => c

/-- One character: the byte string that it ends, and the place after it. -/
def Place.step : Place → Char → Option Bytes × Place
  | .outside, c => (none, if c = '"' then .inside [] else .outside)
  | .inside bs, c =>
    if c = '"' then (some bs, .outside)
    else (none, if c = '\\' then .escape bs else .inside (bs ++ utf8EncodeChar c))
  | .escape bs, c =>
    (none, if c = 'u' then .number bs 0 else if c = 'x' then .byte bs else .inside (bs ++ utf8EncodeChar (ofShort c)))
  | .number bs value, c =>
    (none, if c = '{' then .number bs value
      else if c = '}' then .inside (bs ++ utf8EncodeChar (Char.ofNat value))
      else .number bs (withDigit value c))
  | .byte bs, c => (none, .lastDigit bs (withDigit 0 c))
  | .lastDigit bs value, c => (none, .inside (bs ++ [UInt8.ofNat (withDigit value c)]))

/-- The byte strings that end in a text, from a place on. -/
def read : Place → List Char → List Bytes
  | _, [] => []
  | p, c :: cs => (p.step c).1.toList ++ read (p.step c).2 cs

/-- The byte strings that a text holds in quotes. -/
def readList (text : String) : List Bytes := read .outside text.toList

/-! ## What is read of a piece -/

variable {hidden : Char → Bool}

/-- A digit in lower case counts for what it is written for. -/
theorem withDigit_digitChar (value : Nat) {d : Nat} (h : d < 16) : withDigit value d.digitChar = 16 * value + d := by
  rw [withDigit, Hex.value?_digitChar h]
  rfl

theorem withDigit_toUpper (value : Nat) {d : Nat} (h : d < 16) :
    withDigit value d.digitChar.toUpper = 16 * value + d := by
  rw [withDigit, Hex.value?_toUpper h]
  rfl

/-- A digit is read into the number before it. -/
theorem read_digit (bs : Bytes) (value : Nat) {d : Nat} (h : d < 16) (rest : List Char) :
    read (.number bs value) (d.digitChar :: rest) = read (.number bs (16 * value + d)) rest := by
  have hb : ∀ d < 16, Nat.digitChar d ≠ '{' ∧ Nat.digitChar d ≠ '}' := by decide
  rw [read, Place.step, if_neg (hb d h).1, if_neg (hb d h).2, withDigit_digitChar value h]
  rfl

/-- The digits of a number are read as the number. -/
theorem read_toDigits (bs : Bytes) (n : Nat) (rest : List Char) :
    read (.number bs 0) (Nat.toDigits 16 n ++ rest) = read (.number bs n) rest := by
  induction n using Nat.strong_induction_on generalizing rest with
  | _ n ih =>
    by_cases h : n < 16
    · rw [Nat.toDigits_of_lt_base h, List.singleton_append, read_digit bs 0 h, Nat.mul_zero, Nat.zero_add]
    · have hn : 16 ≤ n := Nat.le_of_not_lt h
      rw [Nat.toDigits_of_base_le (by decide) hn, List.append_assoc, ih (n / 16) (by omega), List.singleton_append,
        read_digit bs _ (Nat.mod_lt n (by decide)), Nat.div_add_mod]

/-- Whatever the writer makes of a character, the reader takes it for the character. -/
theorem read_ofChar (bs : Bytes) (c : Char) (rest : List Char) :
    read (.inside bs) (ofChar hidden c ++ rest) = read (.inside (bs ++ utf8EncodeChar c)) rest := by
  unfold ofChar
  split_ifs with hq hb h0 ht hn hr hc
  · subst hq; rfl
  · subst hb; rfl
  · subst h0; rfl
  · subst ht; rfl
  · subst hn; rfl
  · subst hr; rfl
  · have hopen : ∀ cs, read (.inside bs) ('\\' :: 'u' :: '{' :: cs) = read (.number bs 0) cs := fun cs => rfl
    simp only [List.cons_append, List.nil_append, List.append_assoc]
    rw [hopen, read_toDigits]
    have hclose : read (.number bs c.toNat) ('}' :: rest) =
        read (.inside (bs ++ utf8EncodeChar (Char.ofNat c.toNat))) rest := rfl
    rw [hclose, Char.ofNat_toNat]
  · rw [List.singleton_append, read, Place.step, if_neg hq, if_neg hb]
    rfl

/-- The two digits of a byte are read as the byte. -/
theorem read_ofByte (bs : Bytes) (b : UInt8) (rest : List Char) :
    read (.inside bs) (ofByte b ++ rest) = read (.inside (bs ++ [b])) rest := by
  have hb : b.toNat < 256 := b.toNat_lt
  have hr : read (.inside bs) (ofByte b ++ rest) =
      read (.inside (bs ++ [UInt8.ofNat (withDigit (withDigit 0 (Nat.digitChar (b.toNat / 16)).toUpper)
        (Nat.digitChar (b.toNat % 16)).toUpper)])) rest := rfl
  have hv : 16 * (16 * 0 + b.toNat / 16) + b.toNat % 16 = b.toNat := by omega
  rw [hr, withDigit_toUpper _ (by omega), withDigit_toUpper _ (by omega), hv, UInt8.ofNat_toNat]

/-- Whatever the writer makes of a piece, the reader takes it for the bytes of the piece. -/
theorem read_ofPiece (bs : Bytes) (p : Piece) (rest : List Char) :
    read (.inside bs) (ofPiece hidden p ++ rest) = read (.inside (bs ++ p.bytes)) rest := by
  cases p with
  | char c => exact read_ofChar bs c rest
  | bad bad =>
    induction bad generalizing bs with
    | nil => simp [ofPiece, Piece.bytes]
    | cons b bad ih =>
      simp only [ofPiece, Piece.bytes, List.flatMap_cons, List.append_assoc] at ih ⊢
      rw [read_ofByte, ih, List.append_assoc]
      rfl

/-- Whatever the writer makes of pieces, the reader takes it for their bytes, in order. -/
theorem read_ofPieces (bs : Bytes) (ps : List Piece) (rest : List Char) :
    read (.inside bs) (ps.flatMap (ofPiece hidden) ++ rest) = read (.inside (bs ++ ps.flatMap Piece.bytes)) rest := by
  induction ps generalizing bs with
  | nil => simp
  | cons p ps ih => rw [List.flatMap_cons, List.append_assoc, read_ofPiece, ih, List.flatMap_cons, List.append_assoc]

/-! ## What is read of a list -/

/-- A byte string in quotes is read as the byte string. -/
theorem read_quotedChars (bs : Bytes) (rest : List Char) :
    read .outside (quotedChars hidden bs ++ rest) = bs :: read .outside rest := by
  have hopen : ∀ cs, read .outside ('"' :: cs) = read (.inside []) cs := fun cs => rfl
  have hclose : ∀ bs, read (.inside bs) ('"' :: rest) = bs :: read .outside rest := fun bs => rfl
  rw [quotedChars, List.cons_append, List.cons_append, hopen, List.append_assoc, read_ofPieces, List.nil_append,
    Utf8.flatMap_bytes_pieces, List.singleton_append, hclose]

/-- What stands between two byte strings is passed over. -/
theorem read_intercalate (bss : List Bytes) (rest : List Char) :
    read .outside ([',', ' '].intercalate (bss.map (quotedChars hidden)) ++ rest) = bss ++ read .outside rest := by
  have hcomma : ∀ cs, read .outside (',' :: ' ' :: cs) = read .outside cs := fun cs => rfl
  induction bss with
  | nil => rfl
  | cons bs bss ih =>
    cases bss with
    | nil =>
      rw [List.map_singleton, List.intercalate_singleton, read_quotedChars]
      rfl
    | cons bs' bss =>
      rw [List.map_cons] at ih ⊢
      rw [List.map_cons, List.intercalate_cons_cons, List.append_assoc, List.append_assoc, read_quotedChars,
        List.cons_append, List.cons_append, List.nil_append, hcomma, ih]
      rfl

/-- A list of byte strings is read back from its text. -/
theorem readList_quotedList (hidden : Char → Bool) (bss : List Bytes) : readList (quotedList hidden bss) = bss := by
  have hopen : ∀ cs, read .outside ('[' :: cs) = read .outside cs := fun cs => rfl
  rw [readList, quotedList, String.toList_ofList, quotedListChars, List.cons_append, hopen, read_intercalate]
  exact List.append_nil bss

/-- A byte string is known by its text in quotes. -/
theorem quoted_inj (hidden : Char → Bool) {bs bs' : Bytes} : quoted hidden bs = quoted hidden bs' ↔ bs = bs' := by
  have hr : ∀ bs, readList (quoted hidden bs) = [bs] := by
    intro bs
    have hq : read .outside (quotedChars hidden bs ++ []) = [bs] := read_quotedChars bs []
    rw [readList, quoted, String.toList_ofList, ← List.append_nil (quotedChars hidden bs), hq]
  constructor
  · intro h
    exact List.singleton_inj.mp (by rw [← hr, h, hr])
  · rintro rfl
    rfl

/-- A list of byte strings is known by its text. -/
theorem quotedList_inj (hidden : Char → Bool) {bss bss' : List Bytes} :
    quotedList hidden bss = quotedList hidden bss' ↔ bss = bss' := by
  constructor
  · intro h
    rw [← readList_quotedList hidden bss, h, readList_quotedList]
  · rintro rfl
    rfl

/-! ## What is written shows -/

/-- A character that is no control character. -/
def Shows (c : Char) : Prop := 0x20 ≤ c.toNat ∧ (c.toNat < 0x7F ∨ 0xA0 ≤ c.toNat)

instance (c : Char) : Decidable (Shows c) := inferInstanceAs (Decidable (_ ∧ _))

/-- Whether the characters of a text show can be checked one by one. -/
theorem shows_of_all {cs : List Char} (h : cs.all (fun c => decide (Shows c)) = true) : ∀ c ∈ cs, Shows c := by
  simpa using h

theorem shows_of_not_isControl {c : Char} (h : isControl c = false) : Shows c := by
  simp only [isControl, Bool.or_eq_false_iff, Bool.and_eq_false_iff, decide_eq_false_iff_not] at h
  unfold Shows
  omega

theorem shows_digitChar {d : Nat} (h : d < 16) : Shows d.digitChar ∧ Shows d.digitChar.toUpper := by
  have hd : ∀ d < 16, Shows (Nat.digitChar d) ∧ Shows (Nat.digitChar d).toUpper := by decide
  exact hd d h

/-- The digits of a number show. -/
theorem shows_of_mem_toDigits (n : Nat) : ∀ c ∈ Nat.toDigits 16 n, Shows c := by
  induction n using Nat.strong_induction_on with
  | _ n ih =>
    intro c hc
    by_cases h : n < 16
    · rw [Nat.toDigits_of_lt_base h, List.mem_singleton] at hc
      exact hc ▸ (shows_digitChar h).1
    · rw [Nat.toDigits_of_base_le (by decide) (Nat.le_of_not_lt h), List.mem_append, List.mem_singleton] at hc
      rcases hc with hc | hc
      · exact ih (n / 16) (by omega) c hc
      · exact hc ▸ (shows_digitChar (Nat.mod_lt n (by decide))).1

/-- Every escape shows, and what stands for itself is no control character. -/
theorem shows_of_mem_ofChar (c : Char) : ∀ x ∈ ofChar hidden c, Shows x := by
  unfold ofChar
  split_ifs with hq hb h0 ht hn hr hc
  · exact shows_of_all rfl
  · exact shows_of_all rfl
  · exact shows_of_all rfl
  · exact shows_of_all rfl
  · exact shows_of_all rfl
  · exact shows_of_all rfl
  · have hopen : ∀ x ∈ ['\\', 'u', '{'], Shows x := shows_of_all rfl
    have hclose : ∀ x ∈ ['}'], Shows x := shows_of_all rfl
    intro x hx
    rw [List.mem_append, List.mem_append] at hx
    rcases hx with (hx | hx) | hx
    · exact hopen x hx
    · exact shows_of_mem_toDigits _ x hx
    · exact hclose x hx
  · intro x hx
    rw [Bool.or_eq_true, not_or, Bool.not_eq_true] at hc
    rw [List.mem_singleton.mp hx]
    exact shows_of_not_isControl hc.1

theorem shows_of_mem_ofByte (b : UInt8) : ∀ x ∈ ofByte b, Shows x := by
  have hb : b.toNat < 256 := b.toNat_lt
  intro x hx
  simp only [ofByte, List.mem_cons, List.not_mem_nil, or_false] at hx
  rcases hx with rfl | rfl | rfl | rfl
  · decide
  · decide
  · exact (shows_digitChar (by omega)).2
  · exact (shows_digitChar (by omega)).2

/-- All that is written of a piece shows. -/
theorem shows_of_mem_ofPiece (p : Piece) : ∀ x ∈ ofPiece hidden p, Shows x := by
  intro x hx
  cases p with
  | char c => exact shows_of_mem_ofChar c x hx
  | bad bs =>
    obtain ⟨b, -, hb⟩ := List.mem_flatMap.mp hx
    exact shows_of_mem_ofByte b x hb

/-- All that is written of a byte string shows. -/
theorem shows_of_mem_quotedChars (bs : Bytes) : ∀ x ∈ quotedChars hidden bs, Shows x := by
  intro x hx
  simp only [quotedChars, List.mem_append, List.mem_cons, List.not_mem_nil, or_false, List.mem_flatMap] at hx
  rcases hx with (rfl | ⟨p, -, hp⟩) | rfl
  · decide
  · exact shows_of_mem_ofPiece p x hp
  · decide

/-- All that is written of several byte strings shows. -/
theorem shows_of_mem_intercalate (bss : List Bytes) :
    ∀ x ∈ [',', ' '].intercalate (bss.map (quotedChars hidden)), Shows x := by
  have hcomma : ∀ x ∈ [',', ' '], Shows x := shows_of_all rfl
  induction bss with
  | nil => nofun
  | cons bs bss ih =>
    cases bss with
    | nil =>
      rw [List.map_singleton, List.intercalate_singleton]
      exact shows_of_mem_quotedChars bs
    | cons bs' bss =>
      intro x hx
      rw [List.map_cons] at ih
      rw [List.map_cons, List.map_cons, List.intercalate_cons_cons, List.mem_append, List.mem_append] at hx
      rcases hx with (hx | hx) | hx
      · exact shows_of_mem_quotedChars bs x hx
      · exact hcomma x hx
      · exact ih x hx

/-- All that is written of a list shows. -/
theorem shows_of_mem_quotedList (hidden : Char → Bool) (bss : List Bytes) :
    ∀ x ∈ (quotedList hidden bss).toList, Shows x := by
  intro x hx
  rw [quotedList, String.toList_ofList] at hx
  simp only [quotedListChars, List.mem_append, List.mem_cons, List.not_mem_nil, or_false] at hx
  rcases hx with (rfl | hx) | rfl
  · decide
  · exact shows_of_mem_intercalate bss x hx
  · decide

end Quoted

/-! ## The command in the log -/

namespace Kernel

/-- A command is named in the log right before it is asked for, with the argument vector that it is asked for with. -/
theorem record_transfer {κ τ σ : Type} (k : Kernel κ τ σ) (v : Invocation) (s : σ) :
    ∃ said : List Event, (k.traced.transfer v s).record =
      .event (.replacing v.argv) :: .call (s, .exec v.argv) :: said.map .event := by
  rcases hx : k.exec v.argv s with ⟨answer, started, s₁⟩
  rw [traced, transfer_run (watched_exec Prod.mk hx)]
  exact ⟨started.filterMap Entry.event?, rfl⟩

/-- The argument vector in the log is faithful and stays on one line, whatever characters past ASCII are taken for hidden. The one
field of the event that names a command is the text of the vector; two vectors have the same text only when they are the same, and
the vector can be read back from its text; the text holds no control character; and the vector of the event is the one that the
command is then asked for with. -/
theorem argv_of_log (hidden : Char → Bool) :
    (∀ argv, (Event.replacing argv).fields hidden = [("argv", Quoted.quotedList hidden argv)]) ∧
    (∀ argv argv', Quoted.quotedList hidden argv = Quoted.quotedList hidden argv' ↔ argv = argv') ∧
    (∀ argv, Quoted.readList (Quoted.quotedList hidden argv) = argv) ∧
    (∀ argv, ∀ c ∈ (Quoted.quotedList hidden argv).toList, Quoted.Shows c) ∧
    ∀ {κ τ σ : Type} (k : Kernel κ τ σ) (v : Invocation) (s : σ), ∃ said : List Event,
      (k.traced.transfer v s).record = .event (.replacing v.argv) :: .call (s, .exec v.argv) :: said.map .event := by
  exact ⟨fun argv => rfl, fun argv argv' => Quoted.quotedList_inj hidden, Quoted.readList_quotedList hidden,
    Quoted.shows_of_mem_quotedList hidden, record_transfer⟩

/-- An end of a line, a byte that is no text, and the text that looks like its escape: all three are told apart, and none of the
three breaks the line. -/
theorem argv_of_log_lookalikes :
    Quoted.readList (Quoted.quotedList Hidden.isHidden [[10], [0xFF], Bytes.ofString "\\xFF"]) =
        [[10], [0xFF], Bytes.ofString "\\xFF"] ∧
      'F' ∈ (Quoted.quotedList Hidden.isHidden [[10], [0xFF], Bytes.ofString "\\xFF"]).toList ∧ Quoted.Shows 'F' := by
  obtain ⟨-, -, hr, hs, -⟩ := argv_of_log Hidden.isHidden
  have hm : 'F' ∈ (Quoted.quotedList Hidden.isHidden [[10], [0xFF], Bytes.ofString "\\xFF"]).toList := by decide
  exact ⟨hr _, hm, hs _ _ hm⟩

end Kernel

end KernelGuise
