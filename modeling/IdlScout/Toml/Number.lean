import IdlScout.Toml.Lexeme

/-! Numbers and dates of a TOML document. Only the value of a whole number matters to a reader of
settings; fractions and dates need to be well written. -/

namespace IdlScout
namespace Toml

/-- Digits of a class with single underscores between them. -/
def groupedFrom (isDigit : Char → Bool) : Nat → Reader Text
  | 0 => refuse
  | fuel + 1 => do
    let first ← satisfy isDigit
    -- An underscore needs a digit on both sides.
    if ← accept? ['_'] then return first :: (← groupedFrom isDigit fuel)
    match ← peek with
    | some c =>
      if isDigit c then return first :: (← groupedFrom isDigit fuel) else return [first]
    | none => return [first]

/-- Digits of a class with single underscores between them. -/
def grouped (isDigit : Char → Bool) : Reader Text := do
  groupedFrom isDigit ((← remaining).length + 1)

/-- A sign, if there is one; the flag says that it is a minus. -/
def sign : Reader Bool := do
  if ← accept? ['-'] then return true
  let _ ← accept? ['+']
  return false

/-- Digits of a whole number: a zero stands alone. -/
def wholeDigits : Reader Text := do
  if ← accept? ['0'] then return ['0']
  grouped isAsciiDigit

/-- A number fits in 64 bits with its sign; the negative ones reach one further. -/
def isWithin (negative : Bool) (magnitude : Nat) : Bool :=
  if negative then magnitude ≤ Nat.pow 2 63 else magnitude < Nat.pow 2 63

/-- A whole number in base ten. -/
def decimal : Reader Int := do
  let negative ← sign
  let magnitude := Numeral.value (← wholeDigits)
  if isWithin negative magnitude then
    return if negative then -magnitude else magnitude
  else refuse

/-- A digit of a base that is at most sixteen. -/
def isDigitOf (base : Nat) (c : Char) : Bool :=
  (Numeral.hexDigit? c).any (· < base)

/-- The value of digits in a base that is at most sixteen. -/
def valueIn (base : Nat) (digits : Text) : Nat :=
  digits.foldl (fun sum c => base * sum + (Numeral.hexDigit? c).getD 0) 0

/-- The marks of the other bases. -/
def bases : List (Text × Nat) :=
  [("0x".toList, 16), ("0o".toList, 8), ("0b".toList, 2)]

/-- A whole number in any base. -/
def integer : Reader Int := do
  let text ← remaining
  match bases.find? fun (mark, _) => mark.isPrefixOf text with
  -- Other bases take no sign.
  | some (mark, base) =>
    set (text.drop mark.length)
    let value := valueIn base (← grouped (isDigitOf base))
    if isWithin false value then return value else refuse
  | none => decimal

/-- The exponent of a number, with its sign. -/
def exponent : Reader Int := do
  let negative ← sign
  let value := Numeral.value (← grouped isAsciiDigit)
  return if negative then -value else value

/-- A number with a fraction or an exponent, which must be finite, or a word for one that is
neither. -/
def fractional : Reader Unit := do
  let _ ← sign
  if ← accept? "inf".toList then return
  if ← accept? "nan".toList then return
  let whole ← wholeDigits
  let hasPoint ← accept? ['.']
  let places ← if hasPoint then grouped isAsciiDigit else pure []
  let hasMark ← accept? ['e']
  let hasMark ← if hasMark then pure true else accept? ['E']
  let power ← if hasMark then exponent else pure 0
  -- Without a point or a mark this is a whole number.
  if !(hasPoint || hasMark) then refuse
  if Numeral.isTooLarge (Numeral.value (whole ++ places)) (power - places.length) then refuse

/-- A number of exactly so many digits, between bounds. -/
def fixedDigits (width low high : Nat) : Reader Nat := do
  let text ← remaining
  let digits := text.take width
  let value := Numeral.value digits
  if digits.length = width && digits.all isAsciiDigit && low ≤ value && value ≤ high then
    set (text.drop width)
    return value
  else refuse

/-- A year with a leap day. -/
def isLeapYear (year : Nat) : Bool :=
  year % 4 == 0 && (year % 100 != 0 || year % 400 == 0)

/-- The days of a month. -/
def daysOf (year month : Nat) : Nat :=
  if month = 2 then (if isLeapYear year then 29 else 28)
  else if [4, 6, 9, 11].contains month then 30 else 31

/-- A day of the calendar. -/
def day : Reader Unit := do
  let year ← fixedDigits 4 0 9999
  expect '-'
  let month ← fixedDigits 2 1 12
  expect '-'
  let _ ← fixedDigits 2 1 (daysOf year month)

/-- A time of day; a leap second is one. -/
def clock : Reader Unit := do
  let _ ← fixedDigits 2 0 23
  expect ':'
  let _ ← fixedDigits 2 0 59
  expect ':'
  let _ ← fixedDigits 2 0 60
  if ← accept? ['.'] then
    let places ← takeWhile isAsciiDigit
    if places.isEmpty then refuse

/-- A distance from universal time. -/
def offset : Reader Unit := do
  match ← peek with
  | some 'Z' | some 'z' =>
    let _ ← satisfy fun _ => true
  | some '+' | some '-' => do
    let _ ← satisfy fun _ => true
    let _ ← fixedDigits 2 0 23
    expect ':'
    let _ ← fixedDigits 2 0 59
  | _ => pure ()

/-- A text starts with digits and then a mark. -/
def startsWithDigits (width : Nat) (mark : Char) (text : Text) : Bool :=
  (text.takeWhile isAsciiDigit).length == width && text[width]? == some mark

/-- A text goes on with a time after a date. -/
def goesOnWithTime (text : Text) : Bool :=
  match text with
  | c :: rest =>
    -- A space may also end the value, so the time after it has to be seen first.
    (c == 'T' || c == 't' || c == ' ') && (rest.take 2).all isAsciiDigit &&
      rest[2]? == some ':'
  | [] => false

/-- A date, a time, or both. -/
def moment : Reader Unit := do
  if startsWithDigits 2 ':' (← remaining) then clock
  else
    day
    if goesOnWithTime (← remaining) then
      let _ ← satisfy fun _ => true
      clock
      offset

/-- A text that starts a date or a time. -/
def startsMoment (text : Text) : Bool :=
  startsWithDigits 4 '-' text || startsWithDigits 2 ':' text

end Toml
end IdlScout
