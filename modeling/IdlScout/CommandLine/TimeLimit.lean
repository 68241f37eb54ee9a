import IdlScout.Text.Blank
import IdlScout.Text.Numeral

/-! Lengths of time as they are written on a command line. -/

namespace IdlScout

/-- The units of a time. -/
inductive TimeUnit where
  | seconds
  | minutes
  | hours
  deriving Repr, DecidableEq

namespace TimeUnit

/-- The word for a unit. -/
def word : TimeUnit → Text
  | .seconds => "seconds".toList
  | .minutes => "minutes".toList
  | .hours => "hours".toList

/-- The seconds of a unit. -/
def scale : TimeUnit → Nat
  | .seconds => 1
  | .minutes => 60
  | .hours => 3600

/-- The unit of a letter of either case. -/
def ofLetter? (c : Char) : Option TimeUnit :=
  if c = 's' || c = 'S' then some .seconds
  else if c = 'm' || c = 'M' then some .minutes
  else if c = 'h' || c = 'H' then some .hours
  else none

end TimeUnit

/-- A number of units. -/
structure TimeLimit where
  count : Nat
  unit : TimeUnit
  deriving Repr, DecidableEq

namespace TimeLimit

/-- The most seconds that a time has. -/
def secondLimit : Nat := Numeral.max64

/-- The seconds of a time, up to the most. -/
def seconds (limit : TimeLimit) : Nat :=
  min (limit.count * limit.unit.scale) secondLimit

/-- The wording of a time. -/
def text (limit : TimeLimit) : Text :=
  Numeral.write limit.count ++ [' '] ++ limit.unit.word

/-- The numeral of a time and its unit; without a letter it has seconds. -/
def split (text : Text) : Text × TimeUnit :=
  match text.getLast?.bind TimeUnit.ofLetter? with
  | some unit => (text.dropLast, unit)
  | none => (text, .seconds)

/-- A time is a numeral and, if it has one, the letter of a unit; blanks around it say nothing.
Otherwise the result says what is wrong. -/
def read (text : Text) : Except Text TimeLimit :=
  let text := Text.trim text
  if text.isEmpty then .error "invalid empty time expression".toList
  else
    let (digits, unit) := split text
    match Numeral.read? Numeral.max64 digits with
    | some count => .ok ⟨count, unit⟩
    | none => .error ("invalid time expression: ".toList ++ text)

end TimeLimit
end IdlScout
