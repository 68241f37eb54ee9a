import IdlScout.Text.Basic

/-! UTF-8 read one byte at a time, so that cutting the bytes anywhere changes nothing. -/

namespace IdlScout

/-- Where a reader stands between two bytes: at the start of a character, or inside one with some
bytes missing and bounds on the next. -/
inductive Utf8State where
  | start
  | within (sofar missing : Nat) (low high : UInt8)
  deriving Repr, DecidableEq

namespace Utf8

/-- A reader's findings: a character, or a malformed sequence as long as it could be read. -/
abbrev Found := Option Char

/-- The first byte of a character fixes how many follow and what the second may be. -/
def enter (b : UInt8) : List Found × Utf8State :=
  if b < 0x80 then ([some (Char.ofNat b.toNat)], .start)
  -- The leads C0 and C1 could only begin a longer form of an ASCII character.
  else if 0xC2 ≤ b && b ≤ 0xDF then ([], .within (b.toNat - 0xC0) 1 0x80 0xBF)
  -- Second bytes below A0 would write a character of two bytes with three.
  else if b == 0xE0 then ([], .within 0 2 0xA0 0xBF)
  -- Second bytes above 9F would give a surrogate, which is no character.
  else if b == 0xED then ([], .within 0xD 2 0x80 0x9F)
  else if 0xE1 ≤ b && b ≤ 0xEF then ([], .within (b.toNat - 0xE0) 2 0x80 0xBF)
  -- Second bytes below 90 would write a character of three bytes with four.
  else if b == 0xF0 then ([], .within 0 3 0x90 0xBF)
  else if 0xF1 ≤ b && b ≤ 0xF3 then ([], .within (b.toNat - 0xF0) 3 0x80 0xBF)
  -- Second bytes above 8F would pass the last code point.
  else if b == 0xF4 then ([], .within 4 3 0x80 0x8F)
  -- No other byte begins a character.
  else ([none], .start)

/-- A byte that cannot continue the character at hand ends it malformed and starts another. -/
def step : Utf8State → UInt8 → List Found × Utf8State
  | .start, b => enter b
  | .within sofar missing low high, b =>
    if low ≤ b && b ≤ high then
      -- A continuation carries six bits.
      let code := sofar * 64 + (b.toNat - 0x80)
      if missing ≤ 1 then ([some (Char.ofNat code)], .start)
      else ([], .within code (missing - 1) 0x80 0xBF)
    else
      -- The byte may begin a character of its own, so it is read again.
      let (found, next) := enter b
      (none :: found, next)

/-- Bytes that end inside a character leave one malformed sequence. -/
def decodeFrom : Utf8State → Bytes → List Found
  | .start, [] => []
  | .within .., [] => [none]
  | state, b :: rest =>
    let (found, next) := step state b
    found ++ decodeFrom next rest

/-- The character that stands for a malformed sequence. -/
def replacement : Char := Char.ofNat 0xFFFD

/-- Every malformed sequence is read as one replacement character. -/
def decodeLossy (bytes : Bytes) : Text :=
  (decodeFrom .start bytes).map fun found => found.getD replacement

/-- Bytes with a malformed sequence are no text. -/
def decode? (bytes : Bytes) : Option Text :=
  (decodeFrom .start bytes).mapM id

/-- The bytes of a text. -/
def encode (text : Text) : Bytes :=
  text.flatMap String.utf8EncodeChar

/-- The number of bytes of a text. -/
def size (text : Text) : Nat :=
  (encode text).length

end Utf8

end IdlScout
