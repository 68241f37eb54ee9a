import IdlScout.Text.Numeral

/-! The smallest parts of a TOML document: blanks, comments, keys and strings. -/

namespace IdlScout
namespace Toml

/-- A reader takes something from the start of a text, or refuses it. -/
abbrev Reader := StateT Text Option

/-- Nothing is accepted. -/
def refuse {α : Type} : Reader α :=
  fun _ => none

/-- The next character, which stays. -/
def peek : Reader (Option Char) :=
  fun text => some (text.head?, text)

/-- What is left. -/
def remaining : Reader Text :=
  fun text => some (text, text)

/-- A character of a class is taken. -/
def satisfy (accepts : Char → Bool) : Reader Char
  | c :: rest => if accepts c then some (c, rest) else none
  | [] => none

/-- A character is taken. -/
def expect (c : Char) : Reader Unit := do
  let _ ← satisfy (· == c)

/-- Characters of a class are taken, as many as there are. -/
def takeWhile (accepts : Char → Bool) : Reader Text :=
  fun text => some (text.takeWhile accepts, text.dropWhile accepts)

/-- A text is taken if it comes next. -/
def accept? (expected : Text) : Reader Bool :=
  fun text =>
    match Text.stripPrefix? expected text with
    | some rest => some (true, rest)
    | none => some (false, text)

/-- Spaces and tabs. -/
def isBlankMark (c : Char) : Bool :=
  c == ' ' || c == '\t'

/-- Characters of a comment; all but the control characters, of which only the tab is one. -/
def isCommentMark (c : Char) : Bool :=
  c == '\t' || (0x20 ≤ c.toNat && c.toNat != 0x7F)

/-- Characters of a key without quotes. -/
def isKeyMark (c : Char) : Bool :=
  isAsciiLetter c || isAsciiDigit c || c == '_' || c == '-'

/-- Blanks are passed. -/
def blanks : Reader Unit := do
  let _ ← takeWhile isBlankMark

/-- A comment is passed, if one comes next. -/
def comment : Reader Unit := do
  if ← accept? ['#'] then
    let _ ← takeWhile isCommentMark

/-- A line ends in a line feed, alone or after a carriage return. -/
def newline? : Reader Bool := do
  if ← accept? ['\n'] then return true
  accept? ['\r', '\n']

/-- A line ends, or the document does. -/
def lineEnd : Reader Unit := do
  unless ← newline? do
    -- What is left on the line is neither blank nor comment.
    if (← peek).isSome then refuse

/-- What may follow a value or a header on its line. -/
def lineTail : Reader Unit := do
  blanks
  comment
  lineEnd

/-- Blanks, comments and ends of lines, as they stand between the items of a list; every turn
takes a character, so the length of the text bounds their number. -/
def gapWithin : Nat → Reader Unit
  | 0 => pure ()
  | fuel + 1 => do
    blanks
    match ← peek with
    | some '#' => do
      comment
      unless ← newline? do refuse
      gapWithin fuel
    | some '\n' | some '\r' => do
      unless ← newline? do refuse
      gapWithin fuel
    | _ => pure ()

/-- Blanks, comments and ends of lines. -/
def gap : Reader Unit := do
  gapWithin ((← remaining).length + 1)

/-- A character written by its code, in a number of digits. -/
def escapedCode (width : Nat) : Reader Char := do
  let text ← remaining
  let digits := text.take width
  -- The digits have a fixed number, so letters after them belong to the string.
  if digits.length < width then refuse
  match Numeral.hexValue? digits with
  | some code =>
    if code.isValidChar then
      set (text.drop width)
      return Char.ofNat code
    else refuse
  | none => refuse

/-- The character that an escape writes, after its backslash. -/
def escaped : Reader Char := do
  match ← satisfy fun _ => true with
  | 'b' => return Char.ofNat 8
  | 't' => return '\t'
  | 'n' => return '\n'
  | 'f' => return Char.ofNat 12
  | 'r' => return '\r'
  | '"' => return '"'
  | '\\' => return '\\'
  | 'u' => escapedCode 4
  | 'U' => escapedCode 8
  | _ => refuse

/-- Characters that stand for themselves in a string of one line. -/
def isPlain (c : Char) : Bool :=
  isCommentMark c

/-- The rest of a basic string after its opening quote. -/
def basicRest : Nat → Reader Text
  | 0 => refuse
  | fuel + 1 => do
    match ← satisfy fun _ => true with
    | '"' => return []
    | '\\' => return (← escaped) :: (← basicRest fuel)
    | c => if isPlain c then return c :: (← basicRest fuel) else refuse

/-- The rest of a literal string after its opening quote. -/
def literalRest : Reader Text := do
  let body ← takeWhile fun c => isPlain c && c != '\''
  expect '\''
  return body

/-- A backslash at the end of a line removes all blanks and ends of lines after it. -/
def foldedLine? : Reader Bool := do
  let text ← remaining
  -- Blanks may stand between the backslash and the end of its line.
  let after := text.dropWhile isBlankMark
  match after with
  | '\n' :: _ | '\r' :: '\n' :: _ =>
    set (dropFolds (after.length) after)
    return true
  | _ => return false
where
  /-- Blanks and ends of lines are dropped; a lone carriage return stays. -/
  dropFolds : Nat → Text → Text
    | 0, text => text
    | fuel + 1, text =>
      match text with
      | ' ' :: rest | '\t' :: rest | '\n' :: rest | '\r' :: '\n' :: rest => dropFolds fuel rest
      | _ => text

/-- The quotes at the end of a string of several lines: up to two belong to it. -/
def closing? (quote : Char) : Reader (Option Text) := do
  let text ← remaining
  let quotes := text.takeWhile (· == quote)
  -- One or two quotes alone are part of the string.
  if quotes.length < 3 then return none
  -- Of up to five quotes the last three close the string.
  let inside := min (quotes.length - 3) 2
  set (text.drop (inside + 3))
  return some (quotes.take inside)

/-- The rest of a string of several lines after its opening quotes. -/
def multilineRest (quote : Char) (escapes : Bool) : Nat → Reader Text
  | 0 => refuse
  | fuel + 1 => do
    match ← closing? quote with
    | some inside => return inside
    | none =>
      -- Both endings of a line are read as a line feed.
      if ← newline? then return '\n' :: (← multilineRest quote escapes fuel)
      let c ← satisfy fun _ => true
      if c = '\\' && escapes then
        if ← foldedLine? then multilineRest quote escapes fuel
        else
          let written ← escaped
          return written :: (← multilineRest quote escapes fuel)
      else if isPlain c then return c :: (← multilineRest quote escapes fuel)
      else refuse

/-- A string on one line. -/
def shortString : Reader Text := do
  let fuel := (← remaining).length
  if ← accept? ['"'] then basicRest fuel
  else
    expect '\''
    literalRest

/-- A string of any kind; a line end right after three opening quotes is no part of it. -/
def anyString : Reader Text := do
  let fuel := (← remaining).length
  if ← accept? "\"\"\"".toList then
    let _ ← newline?
    multilineRest '"' true fuel
  else if ← accept? "'''".toList then
    let _ ← newline?
    multilineRest '\'' false fuel
  else shortString

/-- A key without dots. -/
def simpleKey : Reader Text := do
  match ← peek with
  | some '"' | some '\'' => shortString
  | _ =>
    let name ← takeWhile isKeyMark
    if name.isEmpty then refuse else return name

/-- The parts of a key, of which there are at most as many as the text has characters. -/
def keyParts : Nat → Reader (List Text)
  | 0 => refuse
  | fuel + 1 => do
    blanks
    let first ← simpleKey
    blanks
    if ← accept? ['.'] then return first :: (← keyParts fuel) else return [first]

/-- The deepest nesting that is read. -/
def depthLimit : Nat := 80

/-- A key with its dots. -/
def key : Reader (List Text) := do
  let parts ← keyParts (← remaining).length
  -- Each dot nests a table inside another.
  if parts.length < depthLimit then return parts else refuse

end Toml
end IdlScout
