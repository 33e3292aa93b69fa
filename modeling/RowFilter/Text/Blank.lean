import RowFilter.Text.CodeRange

/-!
# Blank characters

The characters that count as blank space at the ends of a value, and the text without them.
-/

namespace RowFilter.Text

/-- The Unicode white space characters together with the four information separators. -/
def blankRanges : List CodeRange :=
  [(0x09, 0x0D), (0x1C, 0x20), (0x85, 0x85), (0xA0, 0xA0), (0x1680, 0x1680), (0x2000, 0x200A),
   (0x2028, 0x2029), (0x202F, 0x202F), (0x205F, 0x205F), (0x3000, 0x3000)]

def isBlank (c : Char) : Bool := within blankRanges c.toNat

/-- The blanks of ASCII text layout: space, tab, line feed, vertical tab, form feed, return. -/
def isAsciiBlank (c : Char) : Bool := c.toNat = 0x20 || (0x09 ≤ c.toNat && c.toNat ≤ 0x0D)

def dropEndWhile (p : Char → Bool) (s : List Char) : List Char := (s.reverse.dropWhile p).reverse

def trimEnd (s : List Char) : List Char := dropEndWhile isBlank s

def trim (s : List Char) : List Char := trimEnd (s.dropWhile isBlank)

end RowFilter.Text
