/-!
# Numerals

Which texts are numbers in decimal notation: a sign, digits with a point in or beside them, and an exponent; or, after the sign,
a name for what is no finite number.
-/

namespace KernelGuise.Numeral

def unsigned : List Char → List Char
  | '+' :: cs => cs
  | '-' :: cs => cs
  | cs => cs

def isDigits (cs : List Char) : Bool := !cs.isEmpty && cs.all Char.isDigit

/-- An exponent, or nothing. -/
def isExponent : List Char → Bool
  | [] => true
  | c :: cs => (c == 'e' || c == 'E') && isDigits (unsigned cs)

/-- The part of a decimal number after its whole digits: a point and more digits, where one side of the point may have none. -/
def isFraction (whole : List Char) : List Char → Bool
  | '.' :: cs =>
    let digits := cs.takeWhile Char.isDigit
    !(whole ++ digits).isEmpty && isExponent (cs.drop digits.length)
  | cs => !whole.isEmpty && isExponent cs

def isNumeral (cs : List Char) : Bool :=
  let number := unsigned cs
  let whole := number.takeWhile Char.isDigit
  isFraction whole (number.drop whole.length) ||
    ["inf", "infinity", "nan"].contains (String.ofList (number.map Char.toLower))

end KernelGuise.Numeral
