import IdlScout.Text.Numeral
import IdlScout.Text.Utf8

/-! JSON text as tokens, each carrying what is wrong with it, so that the first fault met from
left to right is the one reported. -/

namespace IdlScout
namespace Json

/-- What can be wrong with a text that should hold a record. -/
inductive Fault where
  /-- The text ended early. -/
  | endedEarly
  /-- The text is not JSON. -/
  | malformed
  /-- The text is JSON of another shape. -/
  | wrongShape
  deriving Repr, DecidableEq

/-- A character of a string, or half of a surrogate pair that an escape wrote. -/
inductive StringUnit where
  | char (c : Char)
  | surrogate (code : Nat)
  deriving Repr, DecidableEq

/-- The words of JSON. -/
inductive Word where
  | null
  | true
  | false
  deriving Repr, DecidableEq

/-- A numeral, or what stands where one was begun. -/
inductive Numeric where
  | complete (tooLarge : Bool)
  | broken (atEnd : Bool)
  deriving Repr, DecidableEq

/-- A token; nothing follows one that is faulty. -/
inductive Token where
  | openObject
  | closeObject
  | openList
  | closeList
  | comma
  | colon
  | string (units : List StringUnit) (fault : Option Fault)
  | word (word : Word) (fault : Option Fault)
  | number (number : Numeric)
  | stray
  deriving Repr, DecidableEq

/-- Blanks between tokens. -/
def isSpace (c : Char) : Bool :=
  c == ' ' || c == '\n' || c == '\t' || c == '\r'

/-- The unit that a four-digit escape writes. -/
def StringUnit.ofCode (code : Nat) : StringUnit :=
  if 0xD800 ≤ code && code ≤ 0xDFFF then .surrogate code else .char (Char.ofNat code)

/-- The character that a one-letter escape writes. -/
def simpleEscape? (c : Char) : Option Char :=
  match c with
  | '"' => some '"'
  | '\\' => some '\\'
  | '/' => some '/'
  | 'b' => some (Char.ofNat 8)
  | 'f' => some (Char.ofNat 12)
  | 'n' => some '\n'
  | 'r' => some '\r'
  | 't' => some '\t'
  | _ => none

/-- An escape of four digits that is not complete: the text may end before four more bytes. -/
def codeFault (rest : Text) : Fault :=
  if Utf8.size rest < 4 then .endedEarly else .malformed

/-- The units of a string after its opening quote, and what follows the closing one. -/
def stringUnits : Text → List StringUnit × Except Fault Text
  | [] => ([], .error .endedEarly)
  | '"' :: rest => ([], .ok rest)
  | '\\' :: [] => ([], .error .endedEarly)
  -- Four digits are looked at together, whatever they are.
  | '\\' :: 'u' :: a :: b :: c :: d :: rest =>
    match Numeral.hexValue? [a, b, c, d] with
    | some code =>
      let (units, after) := stringUnits rest
      (StringUnit.ofCode code :: units, after)
    | none => ([], .error .malformed)
  -- Fewer than four characters are left, though they may still be four bytes.
  | '\\' :: 'u' :: rest => ([], .error (codeFault rest))
  | '\\' :: c :: rest =>
    match simpleEscape? c with
    | some written =>
      let (units, after) := stringUnits rest
      (.char written :: units, after)
    | none => ([], .error .malformed)
  | c :: rest =>
    -- Control characters must be written as escapes.
    if c.toNat < 32 then ([], .error .malformed)
    else
      let (units, after) := stringUnits rest
      (.char c :: units, after)

/-- The rest of a word after its first letter, and what follows it. -/
def wordEnd : Text → Text → Except Fault Text
  | [], rest => .ok rest
  | _ :: _, [] => .error .endedEarly
  | expected :: more, c :: rest => if c = expected then wordEnd more rest else .error .malformed

/-- The exponent of a numeral whose mantissa has been read. -/
def numberExponent (digits : Nat) (places : Nat) (text : Text) : Numeric × Text :=
  match text with
  | c :: rest =>
    if c = 'e' ∨ c = 'E' then
      let (negative, rest) :=
        match rest with
        | '+' :: after => (false, after)
        | '-' :: after => (true, after)
        | _ => (false, rest)
      match rest.takeWhile isAsciiDigit with
      -- A mark of an exponent needs a digit after it.
      | [] => (.broken rest.isEmpty, [])
      | written =>
        let power : Int := Numeral.value written
        let exponent := (if negative then -power else power) - places
        (.complete (Numeral.isTooLarge digits exponent), rest.dropWhile isAsciiDigit)
    else (.complete (Numeral.isTooLarge digits (-places)), text)
  | [] => (.complete (Numeral.isTooLarge digits (-places)), text)

/-- The fraction of a numeral whose whole part has been read. -/
def numberFraction (whole : Text) (text : Text) : Numeric × Text :=
  match text with
  | '.' :: rest =>
    match rest.takeWhile isAsciiDigit with
    -- A point needs a digit after it.
    | [] => (.broken rest.isEmpty, [])
    | places =>
      numberExponent (Numeral.value (whole ++ places)) places.length
        (rest.dropWhile isAsciiDigit)
  | _ => numberExponent (Numeral.value whole) 0 text

/-- A numeral without its sign, and what follows it. -/
def numberBody (text : Text) : Numeric × Text :=
  match text with
  | [] => (.broken true, [])
  | '0' :: rest =>
    match rest with
    -- A zero is not followed by further digits.
    | c :: _ => if isAsciiDigit c then (.broken false, []) else numberFraction ['0'] rest
    | [] => numberFraction ['0'] rest
  | c :: _ =>
    if isAsciiDigit c then
      numberFraction (text.takeWhile isAsciiDigit) (text.dropWhile isAsciiDigit)
    else (.broken false, [])

/-- The token at the start of a text that starts with no blank, and what follows it; nothing
follows a faulty one. -/
def token (c : Char) (rest : Text) : Token × Text :=
  match c with
  | '\x7b' => (.openObject, rest)
  | '\x7d' => (.closeObject, rest)
  | '[' => (.openList, rest)
  | ']' => (.closeList, rest)
  | ',' => (.comma, rest)
  | ':' => (.colon, rest)
  | '"' =>
    match stringUnits rest with
    | (units, .ok after) => (.string units none, after)
    | (units, .error fault) => (.string units (some fault), [])
  | 'n' => ofWord .null "ull".toList
  | 't' => ofWord .true "rue".toList
  | 'f' => ofWord .false "alse".toList
  -- A minus sign belongs to the numeral after it.
  | '-' =>
    let (number, after) := numberBody rest
    (.number number, after)
  | _ =>
    if isAsciiDigit c then
      let (number, after) := numberBody (c :: rest)
      (.number number, after)
    else (.stray, [])
where
  ofWord (word : Word) (ending : Text) : Token × Text :=
    match wordEnd ending rest with
    | .ok after => (.word word none, after)
    | .error fault => (.word word (some fault), [])

/-- The tokens of a text; each takes at least one character, so the length bounds their number. -/
def tokensWithin : Nat → Text → List Token
  -- A blank or a token is at least one character, so this budget is never spent early.
  | _, [] => []
  | 0, _ :: _ => []
  | fuel + 1, c :: rest =>
    if isSpace c then tokensWithin fuel rest
    else
      let (first, after) := token c rest
      first :: tokensWithin fuel after

/-- The tokens of a text. -/
def tokens (text : Text) : List Token :=
  tokensWithin text.length text

end Json
end IdlScout
