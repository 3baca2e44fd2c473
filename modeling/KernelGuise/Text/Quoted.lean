import KernelGuise.Text.Utf8

/-!
# Byte strings in quotes

A byte string is written between double quotes so that it can be read off one line of text: what would end the quotes or the
line, and what would not show, is escaped, and bytes that are no text are written in hexadecimal. Which characters past ASCII do
not show is left to the caller.
-/

namespace KernelGuise.Quoted

open Utf8 (Piece pieces)

/-- A control character of ASCII or of the block after it. -/
def isControl (c : Char) : Bool := c.toNat < 0x20 || (0x7F ≤ c.toNat && c.toNat < 0xA0)

/-- Between quotes a quote, a backslash, a NUL and the three usual blanks have a short escape; the other controls, and the
hidden characters past ASCII, are written as their number in lower-case hexadecimal without padding; all else stands for
itself. -/
def ofChar (hidden : Char → Bool) (c : Char) : List Char :=
  if c = '"' then ['\\', '"']
  else if c = '\\' then ['\\', '\\']
  else if c = '\x00' then ['\\', '0']
  else if c = '\t' then ['\\', 't']
  else if c = '\n' then ['\\', 'n']
  else if c = '\r' then ['\\', 'r']
  else if isControl c || (0x80 ≤ c.toNat && hidden c) then ['\\', 'u', '{'] ++ Nat.toDigits 16 c.toNat ++ ['}']
  else [c]

/-- A byte that belongs to no character: two upper-case hexadecimal digits. -/
def ofByte (b : UInt8) : List Char :=
  ['\\', 'x', (Nat.digitChar (b.toNat / 16)).toUpper, (Nat.digitChar (b.toNat % 16)).toUpper]

def ofPiece (hidden : Char → Bool) : Piece → List Char
  | .char c => ofChar hidden c
  | .bad bs => bs.flatMap ofByte

/-- A byte string in quotes, as characters. -/
def quotedChars (hidden : Char → Bool) (bs : Bytes) : List Char :=
  '"' :: (pieces bs).flatMap (ofPiece hidden) ++ ['"']

/-- A list of byte strings: each in quotes, with a comma and a space between two, all in brackets. -/
def quotedListChars (hidden : Char → Bool) (bss : List Bytes) : List Char :=
  '[' :: [',', ' '].intercalate (bss.map (quotedChars hidden)) ++ [']']

def quoted (hidden : Char → Bool) (bs : Bytes) : String := String.ofList (quotedChars hidden bs)

def quotedList (hidden : Char → Bool) (bss : List Bytes) : String := String.ofList (quotedListChars hidden bss)

end KernelGuise.Quoted
