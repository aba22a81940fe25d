import HourBank.Unicode.Decomposition
import HourBank.Unicode.Uppercase

/-! A text is a list of characters. Numbers are written in decimal, padded on the left to a least
width, and read back from their digits. A text falls into lines and these into words, and words
that differ only in case and accents fold to the same text. -/

namespace HourBank

/-- Text as the characters it is made of. -/
abbrev Text := List Char

namespace Text

def decimal (n : Nat) : Text := Nat.toDigits 10 n

/-- The decimal digits of `n`, with zeros in front up to `width`. -/
def padded (width n : Nat) : Text := (decimal n).leftpad width '0'

/-- The number written by a run of decimal digits; leading zeros count for nothing. -/
def value (digits : Text) : Nat := Nat.ofDigitChars 10 digits 0

theorem value_decimal (n : Nat) : value (decimal n) = n :=
  Nat.ofDigitChars_toDigits (by decide) (by decide)

/-- The characters with the property `White_Space`. The byte order mark, the zero width space and
the information separators U+001C to U+001F are not among them. -/
def isBlank (c : Char) : Bool :=
  let code := c.toNat
  (0x09 ≤ code && code ≤ 0x0D) || code == 0x20 || code == 0x85 || code == 0xA0 ||
    code == 0x1680 || (0x2000 ≤ code && code ≤ 0x200A) || code == 0x2028 || code == 0x2029 ||
    code == 0x202F || code == 0x205F || code == 0x3000

def trim (t : Text) : Text :=
  ((t.dropWhile isBlank).reverse.dropWhile isBlank).reverse

/-- The maximal runs of characters that are not blank, in order. -/
def words (t : Text) : List Text :=
  (t.splitOnP isBlank).filter (· ≠ [])

/-- Splits at every carriage return that a line feed follows, dropping both. -/
def splitPairs : Text → List Text
  | [] => [[]]
  | '\r' :: '\n' :: rest => [] :: splitPairs rest
  | c :: rest => (splitPairs rest).modifyHead (c :: ·)

def isLineEnd (c : Char) : Bool := c == '\r' || c == '\n'

/-- The lines of a text, always at least one: pairs end a line first, then what is left of either
character. -/
def lines (t : Text) : List Text :=
  (splitPairs t).flatMap (·.splitOnP isLineEnd)

/-- The combining diacritical marks, U+0300 to U+036F. -/
def isAccent (c : Char) : Bool := 0x300 ≤ c.toNat && c.toNat ≤ 0x36F

/-- The text in upper case, decomposed, without its accents. Case comes first: U+0345 has a letter
for its capital and so is no longer an accent when accents are dropped. -/
def fold (t : Text) : Text :=
  (Unicode.canonicalDecomposition (t.flatMap Unicode.uppercase)).filter (!isAccent ·)

end Text

end HourBank
