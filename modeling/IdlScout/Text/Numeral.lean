import IdlScout.Text.Word

/-! Decimal numerals, read under a bound and written without leading zeros. -/

namespace IdlScout
namespace Numeral

/-- The value of a digit. -/
def digit (c : Char) : Nat :=
  c.toNat - '0'.toNat

/-- The value of digits, most significant first. -/
def value (digits : Text) : Nat :=
  digits.foldl (fun sum c => 10 * sum + digit c) 0

/-- The digits of a number. -/
def write (n : Nat) : Text :=
  Nat.toDigits 10 n

/-- A whole number with its sign. -/
def writeInt (n : Int) : Text :=
  if n < 0 then '-' :: write n.natAbs else write n.natAbs

/-- A plus sign before a numeral says nothing. -/
def dropPlus : Text → Text
  | '+' :: rest => rest
  | text => text

/-- A numeral is one or more digits after an optional plus sign, and its value obeys the bound. -/
def read? (bound : Nat) (text : Text) : Option Nat :=
  let digits := dropPlus text
  -- A lone sign leaves no digits, and a second sign is no digit.
  if !digits.isEmpty && digits.all isAsciiDigit && value digits ≤ bound then some (value digits)
  else none

/-- The largest 8-bit word. -/
def max8 : Nat := 255

/-- The largest 32-bit word. -/
def max32 : Nat := 4294967295

/-- The largest 64-bit word. -/
def max64 : Nat := 18446744073709551615

/-- The value of a hexadecimal digit of either case. -/
def hexDigit? (c : Char) : Option Nat :=
  if isAsciiDigit c then some (digit c)
  else if 'a' ≤ c && c ≤ 'f' then some (c.toNat - 'a'.toNat + 10)
  else if 'A' ≤ c && c ≤ 'F' then some (c.toNat - 'A'.toNat + 10)
  else none

/-- The value of hexadecimal digits, most significant first. -/
def hexValue? (digits : Text) : Option Nat :=
  digits.foldlM (fun sum c => (hexDigit? c).map (16 * sum + ·)) 0

/-- The least magnitude that rounds to no finite binary number of 64 bits. -/
def infinityBound : Nat := Nat.pow 2 1024 - Nat.pow 2 970

/-- Whether digits scaled by a power of ten reach the bound. -/
def isTooLarge (digits : Nat) (exponent : Int) : Bool :=
  -- Zero stays zero at any scale.
  if digits = 0 then false
  -- One times ten to the 400 is past the bound already, and larger powers need not be computed.
  else if exponent > 400 then true
  else if exponent ≥ 0 then infinityBound ≤ digits * Nat.pow 10 exponent.toNat
  -- With fewer digits than places behind the point the value is below one.
  else if (write digits).length < exponent.natAbs then false
  -- Both sides are scaled up instead of dividing, which keeps the comparison exact.
  else infinityBound * Nat.pow 10 exponent.natAbs ≤ digits

end Numeral
end IdlScout
