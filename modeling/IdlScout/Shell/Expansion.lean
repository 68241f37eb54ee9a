import IdlScout.Shell.Arithmetic
import IdlScout.Shell.Glob
import IdlScout.Shell.State
import IdlScout.Shell.Token

/-! Words as they come out: parameters, sums and outputs are put in, and what is not quoted is
split into fields. -/

namespace IdlScout
namespace Shell

/-- What a piece of a word gives. -/
inductive Chunk where
  | keep (content : Text) (quoted : Bool)
  /-- One word ends here, and another may begin. -/
  | gap
  deriving Repr, DecidableEq

/-- The numbers that a script sees for itself and for its parent. -/
def ownNumber : Text := "4242".toList

/-- The number of the parent. -/
def parentNumber : Text := "4241".toList

/-- The number of what was put aside. -/
def jobNumber : Text := "4243".toList

/-- The characters between fields, unless a variable has others. -/
def fieldMarks (state : State) : Text :=
  (state.values.lookup "IFS".toList).getD " \t\n".toList

/-- A blank among the characters between fields: several of them are one gap. -/
def isFieldBlank (marks : Text) (c : Char) : Bool :=
  marks.contains c && (c == ' ' || c == '\t' || c == '\n')

/-- The fields of a text that starts with no blank. -/
def fieldsFrom (marks : Text) : Nat → Text → List Text
  | 0, _ => []
  | _, [] => []
  | steps + 1, text =>
    let field := text.takeWhile fun c => !marks.contains c
    let rest := (text.drop field.length).dropWhile (isFieldBlank marks)
    let rest := match rest with
      | c :: more =>
        -- One mark that is no blank ends a field together with the blanks around it.
        if marks.contains c then more.dropWhile (isFieldBlank marks) else rest
      | [] => []
    field :: fieldsFrom marks steps rest

/-- The fields of a text, with gaps between them and at its ends where it is separated. -/
def splitChunks (marks text : Text) : List Chunk :=
  let fields := fieldsFrom marks (text.length + 1) (text.dropWhile (isFieldBlank marks))
  (if text.head?.any (isFieldBlank marks) then [.gap] else []) ++
    (fields.map fun field => Chunk.keep field false).intersperse .gap ++
    (if text.getLast?.any marks.contains then [.gap] else [])

/-- The value of a parameter that is a single text, if it has one. -/
def parameterValue? (state : State) (name : Text) : Option Text :=
  match String.ofList name with
  | "#" => some (Numeral.write state.parameters.length)
  | "?" => some (Numeral.write state.status)
  | "$" => some ownNumber
  | "-" => some state.flags
  | "!" => state.job.map fun _ => jobNumber
  | "*" | "@" =>
    let separator := match fieldMarks state with
      | [] => []
      | mark :: _ => [mark]
    some (Text.join separator state.parameters)
  | "0" => some state.name
  | "PPID" => some parentNumber
  | _ =>
    if name.all isAsciiDigit then state.parameters[Numeral.value name - 1]?
    else state.values.lookup name <|>
      if name = "PWD".toList then some (FileTree.spell state.tree.home) else none

/-- The value of a parameter; one without a value is empty, unless that ends the script. -/
def parameterValue (state : State) (name : Text) : State × Text :=
  match parameterValue? state name with
  | some value => (state, value)
  | none =>
    if state.has 'u' then
      (state.giveUp (name ++ ": parameter not set".toList), [])
    else (state, [])

/-- The chunks of a value, which is split where the word may become several and is not quoted. -/
def chunksOf (state : State) (splits quoted : Bool) (value : Text) : List Chunk :=
  if splits && !quoted then splitChunks (fieldMarks state) value else [.keep value quoted]

/-- Chunks of a word that stands in for a value are split like the value. -/
def splitAgain (state : State) (chunks : List Chunk) : List Chunk :=
  chunks.flatMap fun chunk =>
    match chunk with
    | .keep content false => splitChunks (fieldMarks state) content
    | chunk => [chunk]

/-- The marks of chunks that make one word. -/
def joinChunks (chunks : List Chunk) : List Mark :=
  chunks.flatMap fun chunk =>
    match chunk with
    | .keep content quoted => marksOf quoted content
    | .gap => [(' ', true)]

/-- How words inside others are expanded: whether they split, the state, and the word. -/
abbrev Expander := Bool → State → Word → State × List Chunk

/-- The chunks of a parameter without a rule. -/
def plainChunks (splits quoted : Bool) (state : State) (name : Text) : State × List Chunk :=
  -- Between quotes each parameter is a word of its own.
  if name = ['@'] && quoted then
    (state, (state.parameters.map fun value => Chunk.keep value true).intersperse .gap)
  else if (name = ['@'] || name = ['*']) && !quoted && splits then
    (state, (state.parameters.map (splitChunks (fieldMarks state))).intersperse [.gap] |>.flatten)
  else
    let (state, value) := parameterValue state name
    (state, chunksOf state splits quoted value)

/-- The chunks of a parameter with a word that may stand in for its value. -/
def standInChunks (inner : Expander) (splits quoted : Bool) (state : State) (name : Text)
    (use : StandIn) (orEmpty : Bool) (word : Text) : State × List Chunk :=
  let isMissing := match parameterValue? state name with
    | none => true
    | some value => orEmpty && value.isEmpty
  let stand (state : State) : State × List Chunk :=
    let (state, chunks) := inner splits state (wordOf quoted word)
    -- A word in place of a value is split where the value would be.
    (state, if splits && !quoted then splitAgain state chunks else chunks)
  match use with
  | .replacing => if isMissing then (state, []) else stand state
  | .instead => if isMissing then stand state else plainChunks splits quoted state name
  | .assigned =>
    if !isMissing then plainChunks splits quoted state name
    -- Only variables can get a value.
    else if name.head?.any isSpecialName then
      (state.giveUp (name ++ ": bad variable name".toList), [])
    else
      let (state, chunks) := inner false state (wordOf quoted word)
      let value := textOf (joinChunks chunks)
      (state.assign name value, chunksOf state splits quoted value)
  | .complaint =>
    if !isMissing then plainChunks splits quoted state name
    else
      let (state, chunks) := inner false state (wordOf quoted word)
      let message := if !word.isEmpty then textOf (joinChunks chunks)
        else if orEmpty then "parameter not set or null".toList
        else "parameter not set".toList
      (state.giveUp (name ++ ": ".toList ++ message), [])

/-- The chunks of a parameter under a rule. -/
def parameterChunks (inner : Expander) (splits quoted : Bool) (state : State) (name : Text) :
    Rule → State × List Chunk
  | .value => plainChunks splits quoted state name
  | .length =>
    let (state, value) := parameterValue state name
    (state, [.keep (Numeral.write value.length) quoted])
  | .standIn use orEmpty word => standInChunks inner splits quoted state name use orEmpty word
  | .cut atEnd longest pattern =>
    let (state, value) := parameterValue state name
    let (state, chunks) := inner false state (wordOf false pattern)
    (state, chunksOf state splits quoted (cutOff atEnd longest (joinChunks chunks) value))
  | .unknown => (state.giveUp "Bad substitution".toList, [])

/-- The value of an expression, whose parameters are put in before. -/
def sumValue (inner : Expander) (state : State) (expression : Text) : State × Text :=
  -- An expression is read as if between double quotes.
  let (state, chunks) := inner false state (wordOf true expression)
  let text := textOf (joinChunks chunks)
  match Sum.read text >>= Sum.evaluate state.valueOf [] with
  | .ok (n, changes) =>
    (changes.foldr (fun (name, n) state => state.assign name (Numeral.writeInt n.toInt)) state,
      Numeral.writeInt n.toInt)
  | .error fault => (state.giveUp (fault.message text), [])

/-- The chunks of a word, given how a script's output is found, up to a depth of words in words.
Outputs leave their status. -/
def chunksWithin (outputOf : State → Text → State × Text) : Nat → Expander
  | 0, _, state, _ => (state, [])
  | depth + 1, splits, state, word =>
    word.foldl (fun ((state, found) : State × List Chunk) part =>
      let (state, more) : State × List Chunk :=
        match part with
        | .text content quoted => (state, [.keep content quoted])
        | .parameter name rule quoted =>
          parameterChunks (chunksWithin outputOf depth) splits quoted state name rule
        | .sum expression quoted =>
          let (state, value) := sumValue (chunksWithin outputOf depth) state expression
          (state, chunksOf state splits quoted value)
        | .output script quoted =>
          let (state, text) := outputOf state script
          (state, chunksOf state splits quoted text)
      (state, found ++ more)) (state, [])

/-- The characters of the texts in a piece of a word. -/
def WordPart.size : WordPart → Nat
  | .text .. | .output .. => 0
  | .parameter _ (.standIn _ _ word) _ => word.length
  | .parameter _ (.cut _ _ pattern) _ => pattern.length
  | .parameter .. => 0
  | .sum expression _ => expression.length

/-- The chunks of a word; the words in it are shorter than their texts. -/
def chunks (outputOf : State → Text → State × Text) (splits : Bool) (state : State) (word : Word) :
    State × List Chunk :=
  chunksWithin outputOf (word.foldl (fun size part => max size part.size) 0 + 2) splits state word

/-- The words that chunks make: gaps separate them. -/
def wordsOf (current : Option (List Mark)) : List Chunk → List (List Mark)
  | [] => current.toList
  | .gap :: rest => current.toList ++ wordsOf none rest
  -- Pieces without a gap between them are one word.
  | .keep content quoted :: rest =>
    wordsOf (some (current.getD [] ++ marksOf quoted content)) rest

/-- The empty text between the quotes around all parameters makes no word when there are none. -/
def isAllParameters : Word → Bool
  | [.text [] true, .parameter ['@'] .value true] => true
  | _ => false

/-- The words that words expand to, among them the names of files. -/
def expandAll (outputOf : State → Text → State × Text) (state : State) :
    List Word → State × List Text
  | [] => (state, [])
  | word :: rest =>
    let (state, found) := chunks outputOf true state word
    let words := if isAllParameters word && state.parameters.isEmpty then []
      else wordsOf none found
    -- Names of files are put in unless an option forbids it.
    let texts := if state.has 'f' then words.map textOf
      else words.flatMap (pathsOf state.tree)
    let (state, more) := expandAll outputOf state rest
    (state, texts ++ more)

/-- The marks of a word that is not split. -/
def expandWhole (outputOf : State → Text → State × Text) (state : State) (word : Word) :
    State × List Mark :=
  let (state, found) := chunks outputOf false state word
  (state, joinChunks found)

end Shell
end IdlScout
