import IdlScout.Text.Basic

/-! Blanks are the characters with the Unicode property White_Space, and trimming removes them
from the ends. -/

namespace IdlScout

/-- The characters with the Unicode property White_Space. -/
def isBlank (c : Char) : Bool :=
  let code := c.toNat
  (9 ≤ code && code ≤ 13) || code == 32 || code == 0x85 || code == 0xA0 || code == 0x1680 ||
    (0x2000 ≤ code && code ≤ 0x200A) || code == 0x2028 || code == 0x2029 || code == 0x202F ||
    code == 0x205F || code == 0x3000

namespace Text

/-- Blanks at the start are removed. -/
def trimStart (text : Text) : Text :=
  text.dropWhile isBlank

/-- Blanks at the end are removed. -/
def trimEnd (text : Text) : Text :=
  (text.reverse.dropWhile isBlank).reverse

/-- Blanks at both ends are removed. -/
def trim (text : Text) : Text :=
  trimEnd (trimStart text)

/-- The part before the last blank and the part after it. -/
def breakLastBlank? (text : Text) : Option (Text × Text) :=
  breakLast? isBlank text

end Text

end IdlScout
