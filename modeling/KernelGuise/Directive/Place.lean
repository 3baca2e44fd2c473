import KernelGuise.Text.Blank

/-!
# Places in the text of a directive

A directive is read word by word from places in its text. Where a word ends is looked up in the text without the blanks around
it, but words are cut, at the same distance from the start, from the text with them. So the words of an indented directive begin
and end as many bytes too early as the blanks before it take.
-/

namespace KernelGuise.Directive

/-- A place in a text: the characters ahead of it, and the text from which words are cut there. -/
structure Place where
  ahead : List Char
  text : List Char

namespace Place

def strip (cs : List Char) : List Char :=
  ((cs.dropWhile Blank.isBlank).reverse.dropWhile Blank.isBlank).reverse

/-- The size of a text in UTF-8. -/
def size : List Char → Nat
  | [] => 0
  | c :: cs => c.utf8Size + size cs

/-- A text cut in two: the characters that end within so many bytes, and the rest. -/
def cut : Nat → List Char → List Char × List Char
  | _, [] => ([], [])
  | n, c :: cs => if c.utf8Size ≤ n then (c :: (cut (n - c.utf8Size) cs).1, (cut (n - c.utf8Size) cs).2) else ([], c :: cs)

def start (text : List Char) : Place := ⟨strip text, text⟩

/-- The character at a place and the place after it, unless the text ends there. -/
def next? (p : Place) : Option (Char × Place) :=
  match p.ahead with
  | [] => none
  | c :: cs => some (c, ⟨cs, (cut c.utf8Size p.text).2⟩)

/-- The word from a place up to a character that ends it, and the place where it ends. -/
def word (p : Place) (ends : Char → Bool) : List Char × Place :=
  let length := size (p.ahead.takeWhile (!ends ·))
  ((cut length p.text).1, ⟨p.ahead.dropWhile (!ends ·), (cut length p.text).2⟩)

end Place

end KernelGuise.Directive
