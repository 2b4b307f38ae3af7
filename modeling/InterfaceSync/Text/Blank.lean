/-!
# White space

The characters with the property `White_Space`, twenty-five in all, and trimming by them.  They are
the ones that may stand around an attribute argument and a kind name, and in front of a field
declaration.
-/

namespace InterfaceSync.Text

/-- Whether a character is white space: the five controls from tab to carriage return, the blank,
and the blanks and separators beyond ASCII. -/
def isBlank (c : Char) : Bool :=
  let n := c.toNat
  decide (9 ≤ n ∧ n ≤ 13) || n == 0x20 || n == 0x85 || n == 0xA0 || n == 0x1680
    || decide (0x2000 ≤ n ∧ n ≤ 0x200A) || n == 0x2028 || n == 0x2029 || n == 0x202F
    || n == 0x205F || n == 0x3000

/-- What is left of a text once the white space in front of it is gone. -/
def trimStart (text : List Char) : List Char :=
  text.dropWhile isBlank

/-- What is left of a text once the white space behind it is gone. -/
def trimEnd (text : List Char) : List Char :=
  (text.reverse.dropWhile isBlank).reverse

/-- What is left of a text once the white space on either side is gone. -/
def trim (text : List Char) : List Char :=
  trimEnd (trimStart text)

end InterfaceSync.Text
