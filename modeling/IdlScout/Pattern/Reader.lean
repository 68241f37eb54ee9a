import IdlScout.Pattern.Basic
import IdlScout.Pattern.Property
import IdlScout.Text.Blank
import IdlScout.Text.Numeral

/-! Patterns read from text. -/

namespace IdlScout
namespace Pattern

/-- A reader's state: what is left, the names of groups so far, and the two flags that change how
a pattern is read. -/
structure Scan where
  rest : Text
  names : List Text := []
  /-- Blanks and comments are passed over. -/
  verbose : Bool := false
  /-- Classes hold characters of any script. -/
  unicode : Bool := true
  deriving Repr

/-- A step of a reader. -/
abbrev Reader := StateT Scan (Except PatternFault)

/-- The next character, which stays. -/
def peek : Reader (Option Char) := do
  return (← get).rest.head?

/-- Characters are passed. -/
def skip (count : Nat) : Reader Unit :=
  modify fun scan => { scan with rest := scan.rest.drop count }

/-- A text is taken if it comes next. -/
def accept? (expected : Text) : Reader Bool := do
  if expected.isPrefixOf (← get).rest then
    skip expected.length
    return true
  else return false

/-- Blanks and comments are dropped; every turn takes a character. -/
def dropIgnored : Nat → Text → Text
  | 0, text => text
  | fuel + 1, text =>
    match text with
    -- A comment ends with its line.
    | '#' :: rest => dropIgnored fuel ((rest.dropWhile (· != '\n')).drop 1)
    | c :: rest => if isBlank c then dropIgnored fuel rest else text
    | [] => []

/-- Blanks and comments are passed over where they mean nothing. -/
def skipIgnored : Reader Unit :=
  modify fun scan =>
    if scan.verbose then { scan with rest := dropIgnored scan.rest.length scan.rest } else scan

/-- A character is passed, and what means nothing after it. -/
def step : Reader Unit := do
  skip 1
  skipIgnored

/-- The next character, or a fault at the end. -/
def current (fault : PatternFault) : Reader Char := do
  match ← peek with
  | some c => return c
  | none => throw fault

/-- Digits of a count, with blanks around them. -/
def countDigits : Nat → Reader Text
  | 0 => return []
  | fuel + 1 => do
    match ← peek with
    | some c =>
      if isAsciiDigit c then
        step
        return c :: (← countDigits fuel)
      else return []
    | none => return []

/-- Blanks are passed. -/
def skipBlanks : Reader Unit :=
  modify fun scan => { scan with rest := Text.trimStart scan.rest }

/-- A count of a repetition, if there is one. -/
def count? : Reader (Option Nat) := do
  skipBlanks
  let digits ← countDigits (← get).rest.length
  skipBlanks
  if digits.isEmpty then return none
  match Numeral.read? Numeral.max32 digits with
  | some value => return some value
  | none => throw .badCount

/-- The counts of a repetition, after its opening brace. -/
def counts : Reader (Nat × Option Nat) := do
  let least ← count?
  if (← current .badCount) = ',' then
    step
    let close ← current .badCount
    match least with
    | none => throw .badCount
    | some least =>
      if close = '\x7d' then return (least, none)
      match ← count? with
      | some most => if least ≤ most then return (least, some most) else throw .badCount
      | none => throw .badCount
  else
    match least with
    | some least => return (least, some least)
    | none => throw .badCount

/-- The part before a repetition can be repeated. -/
def isRepeatable : Pattern → Bool
  | .empty | .flags => false
  | _ => true

/-- A repetition of the last part. -/
def repeatLast (parts : List Pattern) (op : Char) : Reader (List Pattern) := do
  match parts.getLast? with
  | none => throw .nothingToRepeat
  | some body =>
    -- A change of flags matches nothing, so there is nothing to repeat.
    if !isRepeatable body then throw .nothingToRepeat
    let (least, most) ←
      if op = '\x7b' then do
        step
        let range ← counts
        if (← current .badCount) ≠ '\x7d' then throw .badCount
        step
        pure range
      else do
        skip 1
        pure (if op = '?' then (0, some 1) else if op = '*' then (0, none) else (1, none))
    -- A question mark after the operator prefers fewer turns, which changes no match as a whole.
    let _ ← accept? ['?']
    return parts.dropLast ++ [.repetition body least most]

/-- The character of a code. -/
def charOf (code : Nat) : Reader Char :=
  if code.isValidChar then return Char.ofNat code else throw .badEscape

/-- Hexadecimal digits up to a closing brace. -/
def bracedDigits : Nat → Reader Text
  | 0 => throw .badEscape
  | fuel + 1 => do
    let c ← current .badEscape
    step
    if c = '\x7d' then return []
    return c :: (← bracedDigits fuel)

/-- A number of hexadecimal digits. -/
def plainDigits : Nat → Reader Text
  | 0 => return []
  | count + 1 => do
    let c ← current .badEscape
    step
    return c :: (← plainDigits count)

/-- A character written by its code after an escape's letter. -/
def codeEscape (letter : Char) : Reader Char := do
  step
  let braced := (← current .badEscape) = '\x7b'
  let digits ←
    if braced then do
      step
      bracedDigits ((← get).rest.length + 1)
    else plainDigits (if letter = 'x' then 2 else if letter = 'u' then 4 else 8)
  if digits.isEmpty then throw .badEscape
  match Numeral.hexValue? digits with
  | none => throw .badEscape
  | some code =>
    let c ← charOf code
    -- Two digits write a byte where characters are bytes; braces always write a character.
    if !(← get).unicode && letter == 'x' && !braced && 127 < code then throw .notText
    return c

/-- The name of a class up to a closing brace. -/
def propertyName : Nat → Reader Text
  | 0 => throw .badEscape
  | fuel + 1 => do
    let c ← current .badEscape
    if c = '\x7d' then
      skip 1
      return []
    step
    return c :: (← propertyName fuel)

/-- A name of a class is known, with the value of its property if it gives one. -/
def isKnown (name : Text) : Bool :=
  match Text.breakOn? "!=".toList name with
  | some (property, value) => isValuedName property value
  | none =>
    match Text.breakAt? ':' name with
    | some (property, value) => isValuedName property value
    | none =>
      match Text.breakAt? '=' name with
      | some (property, value) => isValuedName property value
      | none => isClassName name

/-- A class that an escape names. -/
def propertyClass : Reader Pattern := do
  step
  let c ← current .badEscape
  let name ←
    if c = '\x7b' then do
      step
      propertyName ((← get).rest.length + 1)
    else if c = '\\' then throw .badEscape
    else do
      step
      pure [c]
  if !(← get).unicode then throw .unknownProperty
  if isKnown name then return .charClass .property else throw .unknownProperty

/-- The kinds of word boundaries that braces name. -/
def boundaryNames : List Text :=
  ["start".toList, "end".toList, "start-half".toList, "end-half".toList]

/-- Characters of a boundary's name. -/
def isBoundaryMark (c : Char) : Bool :=
  isAsciiLetter c || c == '-'

/-- The name of a boundary in braces, if what follows is one and no count. -/
def boundaryName : Nat → Reader Text
  | 0 => return []
  | fuel + 1 => do
    match ← peek with
    | some c =>
      if isBoundaryMark c then
        step
        return c :: (← boundaryName fuel)
      else return []
    | none => return []

/-- A word boundary, of a special kind if braces name one. -/
def boundary : Reader Pattern := do
  skip 1
  -- A brace may also start a count, so the reader can step back to it.
  if (← peek) ≠ some '\x7b' then return .assertion
  let before ← get
  step
  let c ← current .badEscape
  if !isBoundaryMark c then
    set before
    return .assertion
  let name ← boundaryName (← get).rest.length
  if (← current .badEscape) ≠ '\x7d' then throw .badEscape
  skip 1
  if boundaryNames.contains name then return .assertion else throw .badEscape

/-- A class of one letter; its negation holds bytes that are no text unless it is of any script. -/
def letterClass (c : Char) : Reader Pattern := do
  skip 1
  -- What is not such a character is any other byte, text or not.
  if isAsciiLetter c && c.isUpper && !(← get).unicode then throw .notText
  let kind : CharClass :=
    if c = 'd' || c = 'D' then .digit else if c = 's' || c = 'S' then .space else .word
  return .charClass kind

/-- An escape, after its backslash. -/
def escape : Reader Pattern := do
  skip 1
  let c ← current .badEscape
  if isAsciiDigit c then throw .backreference
  else if c = 'x' || c = 'u' || c = 'U' then return .literal (← codeEscape c)
  else if c = 'p' || c = 'P' then propertyClass
  else if "dswDSW".toList.contains c then letterClass c
  else if c = 'b' then boundary
  else if "AzB<>".toList.contains c then
    skip 1
    return .assertion
  -- Every sign of ASCII may be escaped, also where it means nothing by itself.
  else if "aftnrv".toList.contains c || (c.toNat < 128 && !isAsciiLetter c) then
    skip 1
    return .literal c
  else throw .badEscape

/-- The names of classes within brackets. -/
def bracketNames : List Text :=
  names ["alnum alpha ascii blank cntrl digit graph lower print punct space upper word xdigit"]

/-- A named class within brackets, as in `[:alpha:]`, if one comes next. -/
def namedClass? : Reader Bool := do
  let some body := Text.stripPrefix? "[:".toList (← get).rest | return false
  let (negated, body) := match body with
    | '^' :: more => (true, more)
    | _ => (false, body)
  let name := body.takeWhile (· != ':')
  match Text.stripPrefix? ":]".toList (body.drop name.length) with
  | some after =>
    if bracketNames.contains name then
      -- What is not in such a class is any other byte, text or not.
      if negated && !(← get).unicode then throw .notText
      modify fun scan => { scan with rest := after }
      return true
    else return false
  | none => return false

/-- An item of a class: a character, or a class by itself. -/
def classItem : Reader Pattern := do
  let c ← current .unclosedClass
  if c = '\\' then escape
  else
    if 127 < c.toNat && !(← get).unicode then throw .badClass
    skip 1
    return .literal c

/-- An item of a class by itself is a character or a class. -/
def checkItem (item : Pattern) : Reader Unit :=
  match item with
  | .literal _ | .charClass _ => return ()
  | _ => throw .badClass

/-- The character that an end of a range is. -/
def rangeEnd (item : Pattern) : Reader Char :=
  match item with
  | .literal c => return c
  | _ => throw .badClass

/-- An item of a class, or a range of characters. -/
def classRange : Reader Unit := do
  let first ← classItem
  skipIgnored
  let c ← current .unclosedClass
  let scan ← get
  let after := if scan.verbose then dropIgnored scan.rest.length (scan.rest.drop 1)
    else scan.rest.drop 1
  -- A hyphen before the closing bracket stands for itself, and two are a difference of classes.
  if c ≠ '-' || after.head? = some ']' || after.head? = some '-' then checkItem first
  else
    step
    let _ ← current .unclosedClass
    let last ← classItem
    let low ← rangeEnd first
    let high ← rangeEnd last
    if high < low then throw .badClass

/-- Hyphens at the start of a class stand for themselves. -/
def leadingHyphens : Nat → Reader Bool
  | 0 => return false
  | fuel + 1 => do
    if (← current .unclosedClass) = '-' then
      step
      let _ ← leadingHyphens fuel
      return true
    else return false

/-- The opening of a class: its negation, hyphens, and a bracket that stands for itself. -/
def openClass : Reader Unit := do
  step
  if (← current .unclosedClass) = '^' then
    if !(← get).unicode then throw .notText
    step
  let hyphens ← leadingHyphens ((← get).rest.length + 1)
  -- A class is never empty: a closing bracket that comes first is an item of it.
  if !hyphens && (← current .unclosedClass) = ']' then
    step
    let _ ← current .unclosedClass

/-- A class in brackets up to its end, given how many brackets are open and the deepest so far. -/
def classBody : Nat → Nat → Nat → Reader Nat
  | 0, _, _ => throw .unclosedClass
  | fuel + 1, level, deepest => do
    skipIgnored
    let c ← current .unclosedClass
    if c = '[' then
      if ← namedClass? then classBody fuel level deepest
      else
        openClass
        classBody fuel (level + 1) (max deepest (level + 1))
    else if c = ']' then
      skip 1
      -- Classes hold classes, and only the outermost bracket ends the item.
      if level ≤ 1 then return deepest else classBody fuel (level - 1) deepest
    else if ← accept? "&&".toList then classBody fuel level deepest
    else if ← accept? "--".toList then classBody fuel level deepest
    else if ← accept? "~~".toList then classBody fuel level deepest
    else
      classRange
      classBody fuel level deepest

/-- A class in brackets. -/
def bracketClass : Reader Pattern := do
  let fuel := (← get).rest.length + 1
  openClass
  return .bracket (2 * (← classBody fuel 1 1))

/-- The letters of flags. -/
def flagLetters : Text := "imsUuxR".toList

/-- Flags up to the mark after them: each letter once, and at most one minus, not last. -/
def flagItems : Nat → Text → Reader Text
  | 0, _ => throw .badFlags
  | fuel + 1, sofar => do
    let c ← current .badFlags
    if c = ':' || c = ')' then
      -- A minus takes flags away and needs some after it.
      if sofar.getLast? = some '-' then throw .badFlags
      return sofar
    if sofar.contains c || !(c = '-' || flagLetters.contains c) then throw .badFlags
    skip 1
    let _ ← current .badFlags
    flagItems fuel (sofar ++ [c])

/-- What flags say of one letter: on, off, or nothing. -/
def flagState? (letter : Char) (items : Text) : Option Bool :=
  match Text.breakAt? '-' items with
  | some (on, off) =>
    if on.contains letter then some true
    else if off.contains letter then some false else none
  | none => if items.contains letter then some true else none

/-- Flags take effect. -/
def applyFlags (items : Text) : Reader Unit :=
  modify fun scan => { scan with
    verbose := (flagState? 'x' items).getD scan.verbose
    unicode := (flagState? 'u' items).getD scan.unicode }

/-- A name of a group starts with a letter or an underscore. -/
def isGroupName (name : Text) : Bool :=
  match name with
  | [] => false
  | c :: rest =>
    (c == '_' || (isAlphanumeric c && !isAsciiDigit c)) &&
      rest.all fun c => c == '_' || c == '.' || c == '[' || c == ']' || isAlphanumeric c

/-- The name of a group, after its opening bracket. -/
def groupName : Reader Unit := do
  let scan ← get
  match Text.breakAt? '>' scan.rest with
  | none => throw .badGroupName
  | some (name, after) =>
    if !isGroupName name then throw .badGroupName
    if scan.names.contains name then throw .repeatedGroupName
    set { scan with rest := after, names := name :: scan.names }

/-- What starts a look-around. -/
def lookArounds : List Text :=
  ["?=".toList, "?!".toList, "?<=".toList, "?<!".toList]

/-- How a bracket opens: a group, or flags that hold from there on. -/
def openGroup : Reader Bool := do
  skip 1
  skipIgnored
  let text := (← get).rest
  if lookArounds.any (·.isPrefixOf text) then throw .lookAround
  if ← accept? "?P<".toList then
    groupName
    return true
  if ← accept? "?<".toList then
    groupName
    return true
  if ← accept? "?".toList then
    let items ← flagItems ((← get).rest.length + 1) []
    let mark ← current .unclosedGroup
    skip 1
    -- A question mark alone in brackets would repeat the bracket.
    if mark = ')' && items.isEmpty then throw .nothingToRepeat
    applyFlags items
    return mark = ':'
  return true

/-- A part that is no group, class or repetition. -/
def primitive (c : Char) : Reader Pattern := do
  if c = '\\' then escape
  else
    skip 1
    if c = '.' then
      if (← get).unicode then return .charClass .any else throw .notText
    else if c = '^' || c = '$' then return .assertion
    else return .literal c

/-- A pattern up to a closing bracket or the end: finished branches, and the parts of the one at
hand. Every call takes a character or opens a group by one, so the length bounds the calls. -/
def body : Nat → List Pattern → List Pattern → Reader Pattern
  | 0, _, _ => throw .tooLarge
  | fuel + 1, branches, parts => do
    skipIgnored
    match ← peek with
    -- A closing bracket is left for the group that it closes.
    | none | some ')' => return ofBranches (branches ++ [ofParts parts])
    | some '|' => do
      skip 1
      body fuel (branches ++ [ofParts parts]) []
    | some '(' => do
      let outer ← get
      if ← openGroup then
        let inner ← body fuel [] []
        let _ ← current .unclosedGroup
        skip 1
        -- Flags set inside a group end with it.
        modify fun scan => { scan with verbose := outer.verbose, unicode := outer.unicode }
        body fuel branches (parts ++ [.group inner])
      else body fuel branches (parts ++ [.flags])
    | some '[' => do
      let found ← bracketClass
      body fuel branches (parts ++ [found])
    | some c => do
      if "?*+\x7b".toList.contains c then
        let parts ← repeatLast parts c
        body fuel branches parts
      else
        let found ← primitive c
        body fuel branches (parts ++ [found])

/-- The pattern that a text writes. -/
def read (text : Text) : Except PatternFault Pattern := do
  let (pattern, scan) ← (body (2 * text.length + 2) [] []).run { rest := text }
  -- Only a closing bracket stops the reader before the end.
  if !scan.rest.isEmpty then throw .unopenedGroup
  if pattern.depth > depthLimit then throw .tooDeep
  if pattern.size > sizeLimit then throw .tooLarge
  return pattern

end Pattern
end IdlScout
