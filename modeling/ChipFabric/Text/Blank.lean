/-
White space as Unicode defines it: the property `White_Space`, twenty-five
code points, of which core's `Char.isWhitespace` knows four. Property
names and values are trimmed by this class.
-/
namespace ChipFabric.Text

/-- The character has the Unicode property `White_Space`. -/
def isBlank (c : Char) : Bool :=
  let n := c.toNat
  (0x09 ≤ n && n ≤ 0x0d) || n == 0x20 || n == 0x85 || n == 0xa0 || n == 0x1680
    || (0x2000 ≤ n && n ≤ 0x200a) || n == 0x2028 || n == 0x2029 || n == 0x202f
    || n == 0x205f || n == 0x3000

/-- The characters between the blanks at either end. -/
def trimBlanks (cs : List Char) : List Char :=
  ((cs.dropWhile isBlank).reverse.dropWhile isBlank).reverse

/-- The text between the blanks at either end. -/
def trim (s : String) : String := String.ofList (trimBlanks s.toList)

end ChipFabric.Text
