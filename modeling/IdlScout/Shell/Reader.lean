import IdlScout.Shell.Token

/-! Commands read from the tokens of a script. -/

namespace IdlScout
namespace Shell

/-- Tokens with their lines. -/
abbrev Tokens := List (Nat × Token)

/-- A step that reads from the tokens that are left, up to the first fault. -/
abbrev Read (α : Type) := StateT Tokens (Except LineFault) α

/-- Words that mean something where a command can start. -/
def reservedWords : List Text :=
  ["if".toList, "then".toList, "else".toList, "elif".toList, "fi".toList, "while".toList,
    "until".toList, "for".toList, "do".toList, "done".toList, "case".toList, "in".toList,
    "esac".toList, "\x7b".toList, "\x7d".toList, "!".toList]

/-- The text of the next token if it is a word without quotes, or an operator. -/
def nextText? : Tokens → Option Text
  | (_, .word parts) :: _ => plainText? parts
  | (_, .op text) :: _ => some text
  | _ => none

/-- A token as faults name it. -/
def tokenName : Token → Text
  | .word parts =>
    match plainText? parts with
    | some text => if reservedWords.contains text then quote text else "word".toList
    | none => "word".toList
  | .op ['\n'] => "newline".toList
  | .op text => quote text
  | .redirect .. | .here .. => "redirection".toList
  | .finish | .broken _ => endOfFile
where
  /-- A text in quotes. -/
  quote (text : Text) : Text := ['"'] ++ text ++ ['"']

/-- The next token stands where it cannot. -/
def unexpected {α : Type} (wanted : Option Text) : Read α := do
  match ← get with
  -- What cannot be read at all is reported instead of what is missing.
  | (line, .broken fault) :: _ => throw (line, fault)
  | (line, token) :: _ => throw (line, .unexpected (tokenName token) wanted)
  | [] => throw (1, .unexpected endOfFile wanted)

/-- The next token is a given word or operator. -/
def nextIs (text : String) : Read Bool := do
  return nextText? (← get) == some text.toList

/-- The next token is passed. -/
def pass : Read Unit :=
  modify (·.drop 1)

/-- A given word or operator is passed if it comes next. -/
def accept (text : String) : Read Bool := do
  if ← nextIs text then
    pass
    return true
  else return false

/-- A given word or operator is passed, and must come next. -/
def expect (text : String) : Read Unit := do
  if !(← accept text) then unexpected (some (['"'] ++ text.toList ++ ['"']))

/-- Ends of lines are passed. -/
def skipLines : Read Unit :=
  modify (·.dropWhile fun (_, token) => token == .op ['\n'])

/-- The script ends here. -/
def atEnd : Read Bool := do
  return match ← get with
    | (_, .finish) :: _ => true
    | _ => false

/-- The words that end a list of commands. -/
def closers : List Text :=
  ["then".toList, "else".toList, "elif".toList, "fi".toList, "do".toList, "done".toList,
    "esac".toList, "\x7d".toList, ")".toList, ";;".toList]

/-- A list of commands can end here. -/
def atClose : Read Bool := do
  return match nextText? (← get) with
    | some text => closers.contains text
    | none => false

/-- The line of the next token. -/
def nextLine : Read Nat := do
  return ((← get).head?.map Prod.fst).getD 1

/-- A redirection, if one comes next. -/
def redirect? : Read (Option Redirect) := do
  match ← get with
  | (_, .redirect stream kind) :: (_, .word target) :: rest =>
    set rest
    return some ⟨stream, kind, target⟩
  | (_, .redirect ..) :: _ =>
    pass
    unexpected none
  | (_, .here stream content) :: rest =>
    set rest
    return some ⟨stream, .hereText, content⟩
  | _ => return none

/-- Redirections after a command. -/
def redirects : Nat → Read (List Redirect)
  | 0 => return []
  | steps + 1 => do
    match ← redirect? with
    | some found => return found :: (← redirects steps)
    | none => return []

/-- A command with the redirections after it. -/
def withRedirects (body : Command) : Read Command := do
  match ← redirects (← get).length with
  | [] => return body
  | found => return .redirected body found

/-- A word that sets a variable: its name and the word for the value. -/
def assignment? (parts : Word) : Option (Text × Word) :=
  let letters := parts.takeWhile fun part =>
    match part with
    | .text [c] false => isIdentifierChar c
    | _ => false
  match letters.head?, parts.drop letters.length with
  | some (.text [c] _), .text ['='] false :: value =>
    -- A name starts with no digit.
    if isAsciiDigit c then none else some (literalText letters, value)
  | _, _ => none

/-- The words and redirections of a simple command. -/
def simpleParts : Nat → Read (List Word × List Redirect)
  | 0 => return ([], [])
  | steps + 1 => do
    match ← get with
    | (_, .word parts) :: rest =>
      set rest
      let (words, redirects) ← simpleParts steps
      return (parts :: words, redirects)
    | _ =>
      match ← redirect? with
      | some found =>
        let (words, redirects) ← simpleParts steps
        return (words, found :: redirects)
      | none => return ([], [])

/-- A simple command: assignments come before all other words. -/
def simple : Read Command := do
  let line ← nextLine
  let (words, redirects) ← simpleParts (← get).length
  let settings := words.takeWhile fun word => (assignment? word).isSome
  if words.isEmpty && redirects.isEmpty then unexpected none
  else return .simple line (settings.filterMap assignment?) (words.drop settings.length) redirects

/-- A name for a variable or a function. -/
def isName (text : Text) : Bool :=
  text.all isIdentifierChar && text.head?.any fun c => !isAsciiDigit c

/-- The patterns of a choice up to the closing bracket. -/
def choicePatterns : Nat → Read (List Word)
  | 0 => unexpected none
  | steps + 1 => do
    match ← get with
    | (_, .word parts) :: rest =>
      set rest
      if ← accept "|" then return parts :: (← choicePatterns steps)
      else
        expect ")"
        return [parts]
    | _ =>
      pass
      unexpected (some "\")\"".toList)

/-- The words that come next. -/
def valueWords : Read (List Word) := do
  let words := (← get).takeWhile fun (_, token) => match token with
    | .word _ => true
    | _ => false
  modify (·.drop words.length)
  return words.filterMap fun (_, token) => match token with
    | .word parts => some parts
    | _ => none

/-- The name and the brackets of a function come next. -/
def definedName? : Read (Option Text) := do
  match ← get with
  | (_, .word parts) :: (_, .op ['(']) :: rest =>
    if (assignment? parts).isSome then return none
    set rest
    expect ")"
    match plainText? parts with
    | some name => if isName name then return some name
    | none => pure ()
    throw (← nextLine, .functionName)
  | _ => return none

mutual

/-- Commands up to a word that ends them; without any, only the script may end there, unless there
may be none. -/
def list : Nat → Bool → Read Command
  | 0, _ => unexpected none
  | steps + 1, mayBeEmpty => do
    skipLines
    if (← atEnd) || (mayBeEmpty && (← atClose)) then return .sequence []
    let first ← item steps
    if (← accept ";") || (← nextIs "\n") then
      match ← list steps true with
      | .sequence more => return .sequence (first :: more)
      | other => return .sequence [first, other]
    -- The mark that puts a command aside also ends it.
    else if let .aside _ := first then
      match ← list steps true with
      | .sequence more => return .sequence (first :: more)
      | other => return .sequence [first, other]
    else return .sequence [first]

/-- Commands that depend on one another, put aside if the mark for that follows. -/
def item : Nat → Read Command
  | 0 => unexpected none
  | steps + 1 => do
    let command ← chainRest steps (← pipeline steps)
    if ← accept "&" then return .aside command else return command

/-- What depends on a command before. -/
def chainRest : Nat → Command → Read Command
  | 0, _ => unexpected none
  | steps + 1, first => do
    if ← accept "&&" then
      skipLines
      chainRest steps (.both first (← pipeline steps))
    else if ← accept "||" then
      skipLines
      chainRest steps (.either first (← pipeline steps))
    else return first

/-- Commands that read from one another, with their success turned round or not. -/
def pipeline : Nat → Read Command
  | 0 => unexpected none
  | steps + 1 => do
    if ← accept "!" then return .negated (← pipes steps) else pipes steps

/-- Commands that read from one another. -/
def pipes : Nat → Read Command
  | 0 => unexpected none
  | steps + 1 => do
    let first ← command steps
    if ← accept "|" then
      skipLines
      return .pipe first (← pipes steps)
    else return first

/-- One command. -/
def command : Nat → Read Command
  | 0 => unexpected none
  | steps + 1 => do
    if ← accept "if" then withRedirects (← branch steps)
    else if ← accept "while" then withRedirects (← loop steps true)
    else if ← accept "until" then withRedirects (← loop steps false)
    else if ← accept "for" then withRedirects (← each steps)
    else if ← accept "case" then withRedirects (← select steps)
    else if ← accept "\x7b" then
      let body ← list steps false
      expect "\x7d"
      withRedirects body
    else if ← accept "(" then
      let body ← list steps false
      expect ")"
      withRedirects (.nested body)
    -- A word that ends a list starts no command.
    else if (← atClose) || (← nextIs "!") then unexpected none
    else
      match ← definedName? with
      | some name =>
        skipLines
        return .define name (← command steps)
      | none => simple

/-- A condition, what follows it, and what is done otherwise. -/
def branch : Nat → Read Command
  | 0 => unexpected none
  | steps + 1 => do
    let condition ← list steps false
    expect "then"
    let body ← list steps false
    if ← accept "elif" then return .branch condition body (some (← branch steps))
    else if ← accept "else" then
      let other ← list steps false
      expect "fi"
      return .branch condition body (some other)
    else
      expect "fi"
      return .branch condition body none

/-- A body between the words around it. -/
def body : Nat → Read Command
  | 0 => unexpected none
  | steps + 1 => do
    expect "do"
    let body ← list steps false
    expect "done"
    return body

/-- A condition and what is done as long as it succeeds, or fails. -/
def loop : Nat → Bool → Read Command
  | 0, _ => unexpected none
  | steps + 1, wanted => do
    let condition ← list steps false
    return .loop wanted condition (← body steps)

/-- A variable that takes several values, and what is done with each. -/
def each : Nat → Read Command
  | 0 => unexpected none
  | steps + 1 => do
    let some name := nextText? (← get) | throw (← nextLine, .loopVariable)
    if !isName name then throw (← nextLine, .loopVariable)
    pass
    skipLines
    if ← accept "in" then
      let words ← valueWords
      if !((← accept ";") || (← accept "\n")) then unexpected none
      skipLines
      return .each name (some words) (← body steps)
    else
      let _ ← accept ";"
      skipLines
      return .each name none (← body steps)

/-- A word and what is done when it matches patterns. -/
def select : Nat → Read Command
  | 0 => unexpected none
  | steps + 1 => do
    match ← get with
    | (_, .word word) :: rest =>
      set rest
      skipLines
      expect "in"
      skipLines
      return .select word (← choices steps)
    | _ => unexpected (some "word".toList)

/-- Patterns, and what is done on a match, up to the end of a choice. -/
def choices : Nat → Read (List (List Word × Command))
  | 0 => unexpected none
  | steps + 1 => do
    if ← accept "esac" then return []
    -- The bracket before the patterns may be left out.
    let _ ← accept "("
    let patterns ← choicePatterns (← get).length
    let body ← list steps true
    skipLines
    if ← accept "esac" then return [(patterns, body)]
    expect ";;"
    skipLines
    return (patterns, body) :: (← choices steps)

end

/-- The commands of one line. -/
def lineItems (depth : Nat) : Nat → Read (List Command)
  | 0 => return []
  | steps + 1 => do
    if (← atEnd) || (← accept "\n") then return []
    let first ← item depth
    if ← accept ";" then return first :: (← lineItems depth steps)
    if let .aside _ := first then return first :: (← lineItems depth steps)
    if (← atEnd) || (← accept "\n") then return [first]
    unexpected none

/-- The commands of a script, line by line; a line that cannot be read is the last. -/
def lines (depth : Nat) : Nat → Tokens → List Command
  | 0, _ => []
  | steps + 1, tokens =>
    match tokens with
    | [] | (_, .finish) :: _ => []
    | _ =>
      match (lineItems depth (tokens.length + 1)).run tokens with
      -- Lines before a faulty one are carried out, and it is reported when it is reached.
      | .ok (commands, rest) => commands ++ lines depth steps rest
      | .error fault => [.refused fault]

/-- The script that a text holds. -/
def script (text : Text) : Command :=
  let tokens := tokens (text.length + 1) 1 text
  .sequence (lines (16 * (tokens.length + 1)) (tokens.length + 1) tokens)

end Shell
end IdlScout
