/-
  Blank characters and the cutting of blanks at the two ends of a text.
-/

namespace GatedFormula.Text

/-- The characters of the property `White_Space`. -/
def isBlank (c : Char) : Bool :=
  let n := c.toNat
  (0x9 ≤ n && n ≤ 0xd) || n == 0x20 || n == 0x85 || n == 0xa0 || n == 0x1680 ||
    (0x2000 ≤ n && n ≤ 0x200a) || n == 0x2028 || n == 0x2029 || n == 0x202f || n == 0x205f ||
    n == 0x3000

/-- Without the blanks in front. -/
def trimStart (s : List Char) : List Char := s.dropWhile isBlank

/-- Without the blanks at the end. -/
def trimEnd (s : List Char) : List Char := (s.reverse.dropWhile isBlank).reverse

/-- Without blanks at either end. -/
def trim (s : List Char) : List Char := trimEnd (trimStart s)

end GatedFormula.Text
