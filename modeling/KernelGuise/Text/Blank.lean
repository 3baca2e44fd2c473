import KernelGuise.Text.CodeRange

/-!
# Blanks

The characters that only keep others apart: separators, and the controls that end a line or move along it. Past ASCII they are
those of the Unicode standard, version 17 (the property `White_Space`).
-/

namespace KernelGuise.Blank

/-- Separators other than the space: Zs, Zl and Zp of the general category. -/
def separators : List CodeRange :=
  [(0xA0, 0xA0), (0x1680, 0x1680), (0x2000, 0x200A), (0x2028, 0x2029), (0x202F, 0x202F), (0x205F, 0x205F),
    (0x3000, 0x3000)]

/-- The space, and the controls that end a line or move along it. -/
def spacing : List CodeRange := [(0x9, 0xD), (0x20, 0x20), (0x85, 0x85)]

def isBlank (c : Char) : Bool := CodeRange.cover (spacing ++ separators) c

end KernelGuise.Blank
