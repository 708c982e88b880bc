/-!
Contract: Unicode white space, and its removal from both ends of a text.

`isBlank` is the property `White_Space` of the Unicode standard. It is wider
than core's `Char.isWhitespace`: the vertical tab, the next-line control and the
typographic spaces are blank too.
-/

namespace WorkHost.Text

/-- The Unicode property `White_Space`. -/
def isBlank (c : Char) : Bool :=
  let point := c.toNat
  (9 ≤ point && point ≤ 13) || point == 0x20 || point == 0x85 || point == 0xA0
    || point == 0x1680 || (0x2000 ≤ point && point ≤ 0x200A)
    || point == 0x2028 || point == 0x2029 || point == 0x202F || point == 0x205F
    || point == 0x3000

def skipBlanks (text : List Char) : List Char :=
  text.dropWhile isBlank

/-- Removes the blanks at both ends and keeps those inside. -/
def trimBlanks (text : List Char) : List Char :=
  (skipBlanks (skipBlanks text).reverse).reverse

def lowerAscii (text : List Char) : List Char :=
  text.map Char.toLower

end WorkHost.Text
