import BinaryQuadratic.Index

/-!
# Decimal words

Words are written with the fewest decimal digits. Reading accepts more: a plus sign in front, and zeros in front of the
first digit that counts. A number too large for a word is refused, as is a text without digits or with any other
character.
-/

namespace BinaryQuadratic.Text

/-- Decimal digits of a word. -/
def ofWord (k : UInt64) : String := String.ofList (Nat.toDigits 10 k.toNat)

/-- The text after a plus sign, if it starts with one. -/
def dropPlus : List Char → List Char
  | '+' :: rest => rest
  | cs => cs

/-- The number that the text denotes, if it is one and fits into a word. -/
def word? (text : String) : Option UInt64 :=
  let digits := dropPlus text.toList
  let value := Nat.ofDigitChars 10 digits 0
  if !digits.isEmpty && digits.all Char.isDigit && decide (value < 2 ^ 64) then some value.toUInt64 else none

end BinaryQuadratic.Text
