import IdlScout.Text.Numeral
import IdlScout.Text.Utf8

/-! How a text stands in YAML: plain where it reads back as the same text, else quoted or as a
block of lines. -/

namespace IdlScout
namespace Yaml

/-- The styles of a scalar. -/
inductive Style where
  | plain
  | singleQuoted
  | doubleQuoted
  | literal
  deriving Repr, DecidableEq

/-- Characters that end a line. -/
def isBreak (c : Char) : Bool :=
  c == '\n' || c == '\r' || c.toNat == 0x85 || c.toNat == 0x2028 || c.toNat == 0x2029

/-- Characters that may stand unescaped. -/
def isPrintable (c : Char) : Bool :=
  let code := c.toNat
  code == 0x0A || (0x20 ≤ code && code ≤ 0x7E) || (0xA0 ≤ code && code ≤ 0xD7FF) ||
    (0xE000 ≤ code && code ≤ 0xFFFD && code != 0xFEFF) || 0x10000 ≤ code

/-- Nothing, a blank or the end of a line. -/
def isGap : Option Char → Bool
  | none => true
  | some c => c == ' ' || c == '\t' || isBreak c || c.toNat == 0

/-- Characters that open something else when they stand first. -/
def opensOther (c : Char) : Bool :=
  "#,[]\x7b\x7d&*!|>'\"%@\x60".toList.contains c

/-- A character that gives plain text another meaning, between its neighbours. -/
def isIndicator (previous : Option Char) (c : Char) (next : Option Char) : Bool :=
  match previous with
  -- At the start three more characters are signs, but only before a gap.
  | none => opensOther c || ((c == '?' || c == ':' || c == '-') && isGap next)
  -- Further on, a colon before a gap ends a key, and a number sign after one starts a comment.
  | some _ => (c == ':' && isGap next) || (c == '#' && isGap previous)

/-- Some character holds a property together with its neighbours. -/
def anyBetween (holds : Option Char → Char → Option Char → Bool) (previous : Option Char) :
    Text → Bool
  | [] => false
  | c :: rest => holds previous c rest.head? || anyBetween holds (some c) rest

/-- What about a text decides which styles read back as it is. -/
structure Shape where
  /-- Plain text would mean something else. -/
  hasIndicator : Bool
  /-- A character must be escaped. -/
  hasSpecial : Bool
  /-- A line ends inside. -/
  hasBreak : Bool
  /-- A blank or a break stands at an end. -/
  hasLooseEnd : Bool
  /-- A space stands last. -/
  endsInSpace : Bool
  /-- A space follows a break. -/
  hasBreakSpace : Bool
  /-- A break follows a space. -/
  hasSpaceBreak : Bool
  deriving Repr, DecidableEq

/-- The shape of a text. -/
def shape (text : Text) : Shape :=
  let isLoose := fun c => c == ' ' || isBreak c
  -- Three hyphens or points would begin or end a document.
  { hasIndicator := "---".toList.isPrefixOf text || "...".toList.isPrefixOf text ||
      anyBetween isIndicator none text
    hasSpecial := text.any fun c => !isPrintable c
    hasBreak := text.any isBreak
    hasLooseEnd := text.head?.any isLoose || text.getLast?.any isLoose
    endsInSpace := text.getLast? == some ' '
    hasBreakSpace := anyBetween (fun previous c _ => c == ' ' && previous.any isBreak) none text
    hasSpaceBreak := anyBetween (fun previous c _ => isBreak c && previous == some ' ') none text }

namespace Shape

/-- Plain text is read back as it is. -/
def allowsPlain (shape : Shape) : Bool :=
  !(shape.hasLooseEnd || shape.hasBreakSpace || shape.hasSpaceBreak || shape.hasSpecial ||
    shape.hasBreak || shape.hasIndicator)

/-- Text between single quotes is read back as it is. -/
def allowsSingle (shape : Shape) : Bool :=
  !(shape.hasBreakSpace || shape.hasSpaceBreak || shape.hasSpecial)

/-- A block of lines is read back as it is. -/
def allowsLiteral (shape : Shape) : Bool :=
  !(shape.endsInSpace || shape.hasSpaceBreak || shape.hasSpecial)

end Shape

/-- Zeros before digits, with or without a sign, make a text and no number. -/
def isPaddedDigits (text : Text) : Bool :=
  let digits := match text with
    | '+' :: rest | '-' :: rest => rest
    | _ => text
  match digits with
  | '0' :: rest => !rest.isEmpty && rest.all isAsciiDigit
  | _ => false

/-- Digits of a base that is at most sixteen. -/
def baseValue? (base : Nat) (digits : Text) : Option Nat :=
  if digits.isEmpty then none
  else digits.foldlM (fun sum c => do
    let d ← Numeral.hexDigit? c
    if d < base then return base * sum + d else none) 0

/-- A number written in base sixteen, eight or two after a mark, within 128 bits. -/
def isBased (text : Text) : Bool :=
  -- A plus sign may stand before the mark of a base; a minus sign leaves one bit fewer.
  let body := Numeral.dropPlus text
  [("0x".toList, 16), ("0o".toList, 8), ("0b".toList, 2)].any fun (mark, base) =>
    (match Text.stripPrefix? mark body with
      | some digits => (baseValue? base digits).any (· < Nat.pow 2 128)
      | none => false) ||
    (match Text.stripPrefix? ('-' :: mark) text with
      | some digits => (baseValue? base digits).any (· ≤ Nat.pow 2 127)
      | none => false)

/-- A finite decimal number: a sign, digits around a point, an exponent. -/
def isDecimal (text : Text) : Bool :=
  let body := match text with
    | '-' :: rest => rest
    | _ => text
  let whole := body.takeWhile isAsciiDigit
  let rest := body.dropWhile isAsciiDigit
  let (places, rest) := match rest with
    | '.' :: after => (after.takeWhile isAsciiDigit, after.dropWhile isAsciiDigit)
    | _ => ([], rest)
  let mantissa := Numeral.value (whole ++ places)
  -- A point alone is no number, but digits on one side of it are enough.
  if whole.isEmpty && places.isEmpty then false
  else match rest with
    | [] => !Numeral.isTooLarge mantissa (-places.length)
    | mark :: power =>
      let (negative, digits) := match power with
        | '+' :: after => (false, after)
        | '-' :: after => (true, after)
        | _ => (false, power)
      let value : Int := Numeral.value digits
      (mark == 'e' || mark == 'E') && !digits.isEmpty && digits.all isAsciiDigit &&
        !Numeral.isTooLarge mantissa ((if negative then -value else value) - places.length)

/-- A sign before a signed number is no sign. -/
def unsignedBody? (text : Text) : Option Text :=
  match text with
  | '+' :: rest =>
    match rest with
    | '+' :: _ | '-' :: _ => none
    | _ => some rest
  | _ => some text

/-- A text that would be read as a number. -/
def isNumber (text : Text) : Bool :=
  isBased text ||
    match unsignedBody? text with
    | none => false
    | some body =>
      [".inf".toList, ".Inf".toList, ".INF".toList].contains body ||
        ["-.inf".toList, "-.Inf".toList, "-.INF".toList, ".nan".toList, ".NaN".toList,
          ".NAN".toList].contains text ||
        -- Padded digits are a text, though they are quoted all the same.
        (!isPaddedDigits text && isDecimal body)

/-- The words for nothing and for the truth values. -/
def reservedWords : List Text :=
  ["null".toList, "Null".toList, "NULL".toList, "~".toList, "true".toList, "True".toList,
   "TRUE".toList, "false".toList, "False".toList, "FALSE".toList]

/-- A text that would be read as something other than a text. -/
def isAmbiguous (text : Text) : Bool :=
  text.isEmpty || reservedWords.contains text || isNumber text || isPaddedDigits text

/-- The style wished for a text: lines as a block, ambiguous texts quoted, others plain. -/
def wishedStyle (text : Text) : Style :=
  -- Only a line feed asks for a block; other breaks are left to the shape.
  if text.contains '\n' then .literal
  else if isAmbiguous text then .singleQuoted
  else .plain

/-- The style a text gets: the one wished for where its shape allows it. A key on one line with
its value is never a block. -/
def style (isSimpleKey : Bool) (text : Text) : Style :=
  let shape := shape text
  match wishedStyle text with
  | .plain =>
    if shape.allowsPlain then .plain
    else if shape.allowsSingle then .singleQuoted else .doubleQuoted
  -- A key that shares its line cannot span several, and falls back to escapes.
  | .literal =>
    if shape.allowsLiteral && !isSimpleKey then .literal else .doubleQuoted
  | _ => if shape.allowsSingle then .singleQuoted else .doubleQuoted

/-- The digits of an escape, in capital letters. -/
def hexDigits (width code : Nat) : Text :=
  let digits := (Nat.toDigits 16 code).map Char.toUpper
  Text.times (width - digits.length) '0' ++ digits

/-- The letter of a short escape. -/
def shortEscape? (code : Nat) : Option Char :=
  [(0x00, '0'), (0x07, 'a'), (0x08, 'b'), (0x09, 't'), (0x0A, 'n'), (0x0B, 'v'), (0x0C, 'f'),
   (0x0D, 'r'), (0x1B, 'e'), (0x22, '"'), (0x5C, '\\'), (0x85, 'N'), (0xA0, '_'),
   (0x2028, 'L'), (0x2029, 'P')].lookup code

/-- A character as it stands inside double quotes. -/
def escape (c : Char) : Text :=
  let code := c.toNat
  -- The shortest escape is taken: a letter, or two, four or eight digits.
  if isPrintable c && !isBreak c && c != '"' && c != '\\' then [c]
  else match shortEscape? code with
    | some letter => ['\\', letter]
    | none =>
      if code ≤ 0xFF then "\\x".toList ++ hexDigits 2 code
      else if code ≤ 0xFFFF then "\\u".toList ++ hexDigits 4 code
      else "\\U".toList ++ hexDigits 8 code

/-- The spaces before a line inside a scalar. -/
def margin : Text := "  ".toList

/-- Text between single quotes: a quote is written twice, and a line after a break is indented. -/
def singleQuotedFrom (afterBreak : Bool) : Text → Text
  -- A closing quote on its own line is indented like any other.
  | [] => if afterBreak then margin ++ ['\''] else ['\'']
  | c :: rest =>
    if isBreak c then c :: singleQuotedFrom true rest
    else
      (if afterBreak then margin else []) ++ (if c = '\'' then ['\'', '\''] else [c]) ++
        singleQuotedFrom false rest

/-- The lines of a block, each indented unless it is empty. -/
def literalFrom (afterBreak : Bool) : Text → Text
  | [] => []
  | c :: rest =>
    if isBreak c then c :: literalFrom true rest
    else (if afterBreak then margin else []) ++ c :: literalFrom false rest

/-- What a block's header says of its indentation and of the breaks at its end. -/
def literalHints (text : Text) : Text :=
  -- The indentation cannot be seen where the first line starts with a space or is empty.
  let indentation := if text.head?.any fun c => c == ' ' || isBreak c then ['2'] else []
  -- No break at the end is a minus, one is the usual case, and more are a plus.
  let ending := match text.reverse with
    | [] => ['-']
    | [last] => if isBreak last then ['+'] else ['-']
    | last :: previous :: _ =>
      if !isBreak last then ['-'] else if isBreak previous then ['+'] else []
  indentation ++ ending

/-- A text in a style. -/
def write (style : Style) (text : Text) : Text :=
  match style with
  | .plain => text
  | .singleQuoted => '\'' :: singleQuotedFrom false text
  | .doubleQuoted => ['"'] ++ text.flatMap escape ++ ['"']
  | .literal => ['|'] ++ literalHints text ++ ['\n'] ++ literalFrom true text

end Yaml
end IdlScout
