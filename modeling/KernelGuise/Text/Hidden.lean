import KernelGuise.Text.Blank
import KernelGuise.Text.Hidden.Marks
import KernelGuise.Text.Hidden.Unassigned

/-!
# Characters that do not show

Past ASCII some characters have no glyph of their own: separators, format characters, marks that extend the character before
them, letters that only hold a place, and code points that stand for no character at all. Text that must be read off a line
names them by number. The tables are those of the Unicode standard, version 17.
-/

namespace KernelGuise.Hidden

/-- Format characters: Cf of the general category. -/
def formats : List CodeRange :=
  [(0xAD, 0xAD), (0x600, 0x605), (0x61C, 0x61C), (0x6DD, 0x6DD), (0x70F, 0x70F), (0x890, 0x891), (0x8E2, 0x8E2),
    (0x180E, 0x180E), (0x200B, 0x200F), (0x202A, 0x202E), (0x2060, 0x2064), (0x2066, 0x206F), (0xFEFF, 0xFEFF),
    (0xFFF9, 0xFFFB), (0x110BD, 0x110BD), (0x110CD, 0x110CD), (0x13430, 0x1343F), (0x1BCA0, 0x1BCA3),
    (0x1D173, 0x1D17A), (0xE0001, 0xE0001), (0xE0020, 0xE007F)]

/-- Fillers: the letters that hold the place of a missing part of a syllable and are shown as nothing. They are the letters
among the default ignorable code points (the property `Default_Ignorable_Code_Point`); the other tables hold the rest. -/
def fillers : List CodeRange := [(0x115F, 0x1160), (0x3164, 0x3164), (0xFFA0, 0xFFA0)]

/-- The ranges of all characters that do not show. -/
def ranges : List CodeRange :=
  Blank.separators ++ formats ++ fillers ++ basicMarks ++ otherMarks ++ basicUnassigned ++ secondUnassigned ++
    otherUnassigned ++ privateUse

/-- Whether a character past ASCII has no glyph of its own. -/
def isHidden (c : Char) : Bool := CodeRange.cover ranges c

end KernelGuise.Hidden
