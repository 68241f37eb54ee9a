import IdlScout.Text.Blank

/-! Texts in double quotes, for readers of logs. Quotes, backslashes and what cannot be seen are
written as escapes. -/

namespace IdlScout
namespace Quoted

/-- Escapes of their own. -/
def shortEscapes : List (Char × Text) :=
  [(Char.ofNat 0, "\\0".toList), ('\t', "\\t".toList), ('\n', "\\n".toList), ('\r', "\\r".toList),
    ('\'', "\\'".toList), ('"', "\\\"".toList), ('\\', "\\\\".toList)]

/-- Codes of characters that have no shape of their own: controls, formats, private ones, and those
that change the character before them. -/
def unseenRanges : List (Nat × Nat) :=
  [(0, 0x1F), (0x7F, 0x9F), (0xAD, 0xAD), (0x300, 0x36F), (0x483, 0x489), (0x591, 0x5BD),
    (0x600, 0x605), (0x610, 0x61A), (0x61C, 0x61C), (0x64B, 0x65F), (0x6DD, 0x6DD),
    (0x180B, 0x180F), (0x1AB0, 0x1ACE), (0x1DC0, 0x1DFF), (0x200B, 0x200F), (0x202A, 0x202E),
    (0x2060, 0x206F), (0x20D0, 0x20F0), (0xE000, 0xF8FF), (0xFE00, 0xFE0F), (0xFE20, 0xFE2F),
    (0xFEFF, 0xFEFF), (0xFFF9, 0xFFFB), (0x1D173, 0x1D17A), (0xE0000, 0x10FFFF)]

/-- A character that cannot be seen; of the blanks only the space can. -/
def isUnseen (c : Char) : Bool :=
  (isBlank c && c != ' ') ||
    unseenRanges.any fun (low, high) => low ≤ c.toNat && c.toNat ≤ high

/-- A character as it is written between quotes. -/
def encodeChar (c : Char) : Text :=
  match shortEscapes.lookup c with
  | some escape => escape
  | none =>
    -- What cannot be seen is named by its code in hexadecimal digits.
    if isUnseen c then "\\u\x7b".toList ++ Nat.toDigits 16 c.toNat ++ ['\x7d'] else [c]

/-- A text in quotes. -/
def encode (text : Text) : Text :=
  '"' :: text.flatMap encodeChar ++ ['"']

/-- Quoted texts in brackets. -/
def encodeList (texts : List Text) : Text :=
  '[' :: Text.join ", ".toList (texts.map encode) ++ [']']

end Quoted
end IdlScout
