import KernelGuise.Bytes

/-!
# Bytes read as UTF-8

A byte string is cut into pieces: the characters that it holds, and between them the bytes that belong to none. A sequence
that breaks off is one bad piece, as long as it could still have become a character; a byte that starts no sequence is a bad
piece of its own. The reader is a machine with one sequence pending at most, so a piece never waits for more than the byte
that ends it.
-/

namespace KernelGuise.Utf8

/-- What a byte string holds at one place. -/
inductive Piece where
  /-- One character. -/
  | char (c : Char)
  /-- Bytes that belong to no character: a sequence that breaks off, or one byte that starts none. -/
  | bad (bs : Bytes)
  deriving DecidableEq, Repr

/-- A sequence that has begun: the bytes read, the number they spell so far, the range of the next byte, and how many bytes
follow that one. -/
structure Pending where
  read : Bytes
  number : Nat
  low : UInt8
  high : UInt8
  after : Nat
  deriving DecidableEq, Repr

/-- The sequence that a first byte begins. The second byte's range leaves out what a shorter sequence could say (after `E0`
and `F0`), the surrogates (after `ED`) and the numbers past the last character (after `F4`). -/
def Pending.ofLead? (b : UInt8) : Option Pending :=
  if b < 0xC2 then none
  else if b < 0xE0 then some ⟨[b], b.toNat - 0xC0, 0x80, 0xBF, 0⟩
  else if b < 0xF0 then
    some ⟨[b], b.toNat - 0xE0, if b = 0xE0 then 0xA0 else 0x80, if b = 0xED then 0x9F else 0xBF, 1⟩
  else if b < 0xF5 then
    some ⟨[b], b.toNat - 0xF0, if b = 0xF0 then 0x90 else 0x80, if b = 0xF4 then 0x8F else 0xBF, 2⟩
  else none

/-- A byte in range: it completes the character, or the sequence goes on and any continuation byte may follow. -/
def Pending.extend (p : Pending) (b : UInt8) : List Piece × Option Pending :=
  let number := p.number * 64 + (b.toNat - 0x80)
  match p.after with
  | 0 => ([.char (Char.ofNat number)], none)
  | n + 1 => ([], some ⟨p.read ++ [b], number, 0x80, 0xBF, n⟩)

/-- A byte where a character begins: a character of one byte, the start of a longer one, or a bad byte. -/
def start (b : UInt8) : List Piece × Option Pending :=
  if b < 0x80 then ([.char (Char.ofNat b.toNat)], none)
  else match Pending.ofLead? b with
    | some p => ([], some p)
    | none => ([.bad [b]], none)

/-- One byte: the pieces that it completes, and the sequence that is pending after it. A byte out of range breaks the pending
sequence off and begins anew. -/
def step : Option Pending → UInt8 → List Piece × Option Pending
  | none, b => start b
  | some p, b =>
    if p.low ≤ b ∧ b ≤ p.high then p.extend b
    else (.bad p.read :: (start b).1, (start b).2)

/-- The end of the bytes breaks a pending sequence off. -/
def finish : Option Pending → List Piece
  | none => []
  | some p => [.bad p.read]

def scan : Option Pending → Bytes → List Piece
  | p, [] => finish p
  | p, b :: bs => (step p b).1 ++ scan (step p b).2 bs

def pieces (bs : Bytes) : List Piece := scan none bs

/-- A character shows as itself, and each bad piece as one replacement character. -/
def Piece.shown : Piece → Char
  | .char c => c
  | .bad _ => '\uFFFD'

def lossyChars (bs : Bytes) : List Char := (pieces bs).map Piece.shown

/-- The text that shows for a byte string. -/
def lossy (bs : Bytes) : String := String.ofList (lossyChars bs)

end KernelGuise.Utf8
