import IdlScout.Shell.Command
import IdlScout.Text.Word

/-! Tokens of the command language, and how quotes and dollar signs make the pieces of words. -/

namespace IdlScout
namespace Shell

/-- A token of a script. -/
inductive Token where
  | word (parts : Word)
  | op (text : Text)
  /-- The start of a redirection, whose target is the next word. -/
  | redirect (stream : Nat) (kind : RedirectKind)
  /-- A redirection from text that was found below. -/
  | here (stream : Nat) (content : Word)
  /-- The script ends. -/
  | finish
  /-- Nothing more can be read. -/
  | broken (fault : ScriptFault)
  deriving Repr, DecidableEq

/-- What was read, with what follows it, unless something is wrong with the script. -/
abbrev Cut := Except ScriptFault

/-- The end of a script, as faults name it. -/
def endOfFile : Text := "end of file".toList

/-- The text before a mark that must be there, and what follows the mark. -/
def upTo (mark : Char) (fault : ScriptFault) (text : Text) : Cut (Text × Text) :=
  match Text.breakAt? mark text with
  | some found => .ok found
  | none => .error fault

/-- A round bracket that is opened and not closed. -/
def openBracket : ScriptFault :=
  .unexpected endOfFile (some "\")\"".toList)

/-- The text up to the bracket that closes as many as are open, and what follows it. Brackets in
quotes do not count. -/
def closing (depth : Nat) : Nat → Text → Cut (Text × Text)
  | 0, _ => .error openBracket
  | _, [] => .error openBracket
  | steps + 1, c :: rest =>
    let go (depth count : Nat) : Cut (Text × Text) := do
      let (inner, after) ← closing depth steps ((c :: rest).drop count)
      return ((c :: rest).take count ++ inner, after)
    if c = ')' then if depth = 0 then .ok ([], rest) else go (depth - 1) 1
    else if c = '(' then go (depth + 1) 1
    else if c = '\\' then go depth 2
    else if c = '\'' || c = '"' then do
      let (inner, _) ← upTo c .openQuote rest
      go depth (inner.length + 2)
    else go depth 1

/-- The text up to the brace that closes as many as are open, and what follows it. A single quote
counts only outside double ones. -/
def closingBrace (quoted : Bool) (depth : Nat) : Nat → Text → Cut (Text × Text)
  | 0, _ => .error .openBrace
  | _, [] => .error .openBrace
  | steps + 1, c :: rest =>
    let go (depth count : Nat) : Cut (Text × Text) := do
      let (inner, after) ← closingBrace quoted depth steps ((c :: rest).drop count)
      return ((c :: rest).take count ++ inner, after)
    if c = '\x7d' then if depth = 0 then .ok ([], rest) else go (depth - 1) 1
    -- Only braces after a dollar sign are counted.
    else if c = '$' && rest.head? = some '\x7b' then go (depth + 1) 2
    else if c = '$' && rest.head? = some '(' then do
      let (inner, _) ← closing 0 (rest.length + 1) (rest.drop 1)
      go depth (inner.length + 3)
    else if c = '\\' then go depth 2
    else if c = '"' || c = '\x60' || (c = '\'' && !quoted) then do
      let (inner, _) ← upTo c .openQuote rest
      go depth (inner.length + 2)
    else go depth 1

/-- A character that names a parameter by itself. -/
def isSpecialName (c : Char) : Bool :=
  isAsciiDigit c || "@*#?$!-".toList.contains c

/-- The name of a parameter at the start of a text, and what follows it. -/
def parameterName? (text : Text) : Option (Text × Text) :=
  match text with
  | c :: rest =>
    if isSpecialName c then some ([c], rest)
    else if isIdentifierChar c then
      some (text.takeWhile isIdentifierChar, text.dropWhile isIdentifierChar)
    else none
  | [] => none

/-- The name of a parameter in braces, which may be a number of several digits. -/
def bracedName? (text : Text) : Option (Text × Text) :=
  if text.head?.any isAsciiDigit then
    some (text.takeWhile isAsciiDigit, text.dropWhile isAsciiDigit)
  else parameterName? text

/-- What a word after a name is for. -/
def standIn? (mark : Char) : Option StandIn :=
  match mark with
  | '-' => some .instead
  | '=' => some .assigned
  | '?' => some .complaint
  | '+' => some .replacing
  | _ => none

/-- The rule that is written after a name. -/
def ruleOf (text : Text) : Rule :=
  match text with
  | [] => .value
  | '%' :: '%' :: pattern => .cut true true pattern
  | '%' :: pattern => .cut true false pattern
  | '#' :: '#' :: pattern => .cut false true pattern
  | '#' :: pattern => .cut false false pattern
  | ':' :: mark :: word =>
    match standIn? mark with
    | some use => .standIn use true word
    | none => .unknown
  | mark :: word =>
    match standIn? mark with
    | some use => .standIn use false word
    | none => .unknown

/-- The parameter that is written in braces. -/
def bracedParameter (quoted : Bool) (inner : Text) : WordPart :=
  let plain : WordPart :=
    match bracedName? inner with
    | some (name, rest) => .parameter name (ruleOf rest) quoted
    | none => .parameter inner .unknown quoted
  match inner with
  -- A number sign asks for a length only where nothing follows the name.
  | '#' :: rest =>
    match bracedName? rest with
    | some (name, []) => .parameter name .length quoted
    | _ => plain
  | _ => plain

/-- The piece after a dollar sign, and what follows it; a sign before anything else is itself. -/
def dollar (quoted : Bool) (text : Text) : Cut (WordPart × Text) :=
  match text with
  -- The bracket that closes the sum must follow the one that closes its content.
  | '(' :: '(' :: rest =>
    match closing 0 (rest.length + 1) rest with
    | .ok (inner, ')' :: after) => .ok (.sum inner quoted, after)
    | _ => .error .openSum
  | '(' :: rest => do
    let (inner, after) ← closing 0 (rest.length + 1) rest
    return (.output inner quoted, after)
  | '\x7b' :: rest => do
    let (inner, after) ← closingBrace quoted 0 (rest.length + 1) rest
    return (bracedParameter quoted inner, after)
  | _ =>
    match parameterName? text with
    | some (name, after) => .ok (.parameter name .value quoted, after)
    | none => .ok (.text ['$'] quoted, text)

/-- The script between backquotes: a backslash before one of the characters that mean something
there is dropped. -/
def unescape : Text → Text
  | '\\' :: c :: rest => if "$\x60\\".toList.contains c then c :: unescape rest
      else '\\' :: c :: unescape rest
  | c :: rest => c :: unescape rest
  | [] => []

/-- The output of the script between backquotes, and what follows it. -/
def backquoted (quoted : Bool) (text : Text) : Cut (WordPart × Text) := do
  let (inner, after) ← upTo '\x60' .openQuote text
  return (.output (unescape inner) quoted, after)

/-- The pieces between double quotes, and what follows them; here texts have no closing quote. -/
def doubleQuoted (close : Option Char) : Nat → Text → Cut (Word × Text)
  | 0, _ => .error .openQuote
  | _, [] => if close.isNone then .ok ([], []) else .error .openQuote
  | steps + 1, c :: rest =>
    let go (part : WordPart) (after : Text) : Cut (Word × Text) := do
      let (parts, after) ← doubleQuoted close steps after
      return (part :: parts, after)
    if some c = close then .ok ([], rest)
    else if c = '$' then do
      let (part, after) ← dollar true rest
      go part after
    else if c = '\x60' then do
      let (part, after) ← backquoted true rest
      go part after
    else if c = '\\' then
      match rest with
      | '\n' :: after => doubleQuoted close steps after
      | other :: after =>
        -- A backslash stays before any other character.
        if "$\x60\\".toList.contains other || some other = close then go (.text [other] true) after
        else go (.text ['\\', other] true) after
      | [] => go (.text ['\\'] true) []
    else go (.text [c] true) rest

/-- Characters that end a word. -/
def endsWord (c : Char) : Bool :=
  " \t\n|&;<>()".toList.contains c

/-- The pieces of a word, and what follows it; a word may also take all of a text. -/
def wordParts (takesAll : Bool) : Nat → Text → Cut (Word × Text)
  | 0, text => .ok ([], text)
  | _, [] => .ok ([], [])
  | steps + 1, c :: rest =>
    let go (part : WordPart) (after : Text) : Cut (Word × Text) := do
      let (parts, after) ← wordParts takesAll steps after
      return (part :: parts, after)
    if endsWord c && !takesAll then .ok ([], c :: rest)
    else if c = '\'' then do
      let (inner, after) ← upTo '\'' .openQuote rest
      go (.text inner true) after
    else if c = '"' then do
      let (inner, after) ← doubleQuoted (some '"') (rest.length + 1) rest
      let (parts, after) ← wordParts takesAll steps after
      -- The empty piece makes a word even where nothing stands between the quotes.
      return (.text [] true :: inner ++ parts, after)
    else if c = '$' then do
      let (part, after) ← dollar false rest
      go part after
    else if c = '\x60' then do
      let (part, after) ← backquoted false rest
      go part after
    else if c = '\\' then
      match rest with
      | '\n' :: after => wordParts takesAll steps after
      | other :: after => go (.text [other] true) after
      | [] => go (.text ['\\'] true) []
    else go (.text [c] false) rest

/-- The word that a text is, read as one between double quotes or as one without; what cannot be
read stands for itself. -/
def wordOf (quoted : Bool) (text : Text) : Word :=
  let found := if quoted then doubleQuoted none (text.length + 1) text
    else wordParts true (text.length + 1) text
  match found with
  | .ok (word, _) => word
  | .error _ => [.text text true]

/-- A word whose pieces are texts of one kind. -/
def plainText? (parts : Word) : Option Text :=
  (parts.mapM fun (part : WordPart) =>
    match part with
    | .text content false => some content
    | _ => none).map List.flatten

/-- All text of a word that has no other pieces. -/
def literalText (parts : Word) : Text :=
  parts.flatMap fun (part : WordPart) =>
    match part with
    | .text content _ => content
    | _ => []

/-- A piece of a word is quoted. -/
def WordPart.isQuoted : WordPart → Bool
  | .text _ quoted | .parameter _ _ quoted | .sum _ quoted | .output _ quoted => quoted

/-- The lines before the one that ends a here text, and what follows that line. -/
def hereBody (dropTabs : Bool) (ending : Text) : Nat → Text → Text × Text
  | 0, text => ([], text)
  | steps + 1, text =>
    let line := text.takeWhile (· != '\n')
    let after := text.drop (line.length + 1)
    let shown := if dropTabs then line.dropWhile (· == '\t') else line
    -- The end of the script ends a here text too.
    if shown = ending || text.isEmpty then ([], after)
    else
      let (body, last) := hereBody dropTabs ending steps after
      (shown ++ '\n' :: body, last)

/-- A here text is taken from below the line at hand, which goes on without it. -/
def takeHere (dropTabs : Bool) (text : Text) : Cut (Word × Text) := do
  let start := text.dropWhile fun c => c == ' ' || c == '\t'
  let (parts, after) ← wordParts false (start.length + 1) start
  let line := after.takeWhile (· != '\n')
  let below := after.drop (line.length + 1)
  let (body, last) := hereBody dropTabs (literalText parts) (below.length + 1) below
  -- Quotes in the mark say that nothing in the text is expanded.
  if parts.any WordPart.isQuoted then return ([.text body true], line ++ '\n' :: last)
  let (content, _) ← doubleQuoted none (body.length + 1) body
  return (content, line ++ '\n' :: last)

/-- Operators that are not redirections, the longer ones first. -/
def controlOps : List Text :=
  ["&&".toList, "||".toList, ";;".toList, ";".toList, "&".toList, "|".toList, "(".toList,
    ")".toList, "\n".toList]

/-- A redirection at the start of a text, with the stream it changes if none is named. -/
def redirectOf? (text : Text) : Option (Nat × RedirectKind × Text) :=
  match text with
  | '>' :: '>' :: rest => some (1, .appendFile, rest)
  | '>' :: '&' :: rest => some (1, .copy, rest)
  | '>' :: '|' :: rest => some (1, .writeFile, rest)
  | '>' :: rest => some (1, .writeFile, rest)
  | '<' :: '<' :: rest => some (0, .hereText, rest)
  | '<' :: '&' :: rest => some (0, .copy, rest)
  | '<' :: rest => some (0, .readFile, rest)
  | _ => none

/-- A redirection, of the stream that a digit before it names. -/
def numberedRedirect? (text : Text) : Option (Nat × RedirectKind × Text) :=
  match text with
  | c :: rest =>
    if isAsciiDigit c then
      (redirectOf? rest).map fun (_, kind, after) => (c.toNat - '0'.toNat, kind, after)
    else redirectOf? text
  | [] => none

/-- The tokens of a script, each with the number of its line. -/
def tokens : Nat → Nat → Text → List (Nat × Token)
  | 0, line, _ => [(line, .finish)]
  | _, line, [] => [(line, .finish)]
  | steps + 1, line, c :: rest =>
    -- What is left open is missed where the script ends.
    let stopped (fault : ScriptFault) := [(line + rest.count '\n', Token.broken fault)]
    if c = ' ' || c = '\t' then tokens steps line rest
    else if c = '\\' && rest.head? = some '\n' then tokens steps (line + 1) (rest.drop 1)
    -- Words are taken whole below, so a number sign seen here starts a comment.
    else if c = '#' then tokens steps line (rest.dropWhile (· != '\n'))
    else
      match numberedRedirect? (c :: rest) with
      | some (stream, .hereText, after) =>
        let dropTabs := after.head? = some '-'
        match takeHere dropTabs (if dropTabs then after.drop 1 else after) with
        | .ok (content, rest) =>
          let next := line + (after.count '\n' - rest.count '\n')
          (line, .here stream content) :: tokens steps next rest
        | .error fault => stopped fault
      | some (stream, kind, after) => (line, .redirect stream kind) :: tokens steps line after
      | none =>
        match controlOps.find? (·.isPrefixOf (c :: rest)) with
        | some op =>
          let next := if op = ['\n'] then line + 1 else line
          (line, .op op) :: tokens steps next ((c :: rest).drop op.length)
        | none =>
          match wordParts false (rest.length + 2) (c :: rest) with
          | .ok (parts, after) =>
            let passed := (c :: rest).take (rest.length + 1 - after.length)
            (line, .word parts) :: tokens steps (line + passed.count '\n') after
          | .error fault => stopped fault

end Shell
end IdlScout
