import IdlScout.Files.Tree
import IdlScout.Shell.Arithmetic

/-! Conditions on texts, numbers and files, as they stand between brackets. -/

namespace IdlScout
namespace Shell

/-- What can be wrong with a condition. -/
inductive ConditionFault where
  | noArgument (op : Text)
  | unexpected (word : Text)
  | noNumber (word : Text)
  | openBracket
  | noBracket
  deriving Repr, DecidableEq

/-- The wording of a fault. -/
def ConditionFault.message : ConditionFault → Text
  | .noArgument op => op ++ ": argument expected".toList
  | .unexpected word => word ++ ": unexpected operator".toList
  | .noNumber word => "Illegal number: ".toList ++ word
  | .openBracket => "closing paren expected".toList
  | .noBracket => "missing ]".toList

/-- What a word is for where a condition goes on with it. -/
inductive ConditionWord where
  | finish
  | operand
  | onFile
  | onText
  | comparison
  | negation
  | opening
  | closing
  | both
  | either
  deriving Repr, DecidableEq

/-- Operators that ask for a property of a file. -/
def fileOperators : List Text :=
  ["-e".toList, "-r".toList, "-w".toList, "-x".toList, "-f".toList, "-d".toList, "-s".toList,
    "-L".toList, "-h".toList, "-p".toList, "-S".toList, "-b".toList, "-c".toList, "-t".toList,
    "-u".toList, "-g".toList, "-k".toList, "-O".toList, "-G".toList]

/-- Operators that compare. -/
def comparisons : List Text :=
  ["=".toList, "!=".toList, "<".toList, ">".toList, "-eq".toList, "-ne".toList, "-lt".toList,
    "-le".toList, "-gt".toList, "-ge".toList, "-nt".toList, "-ot".toList, "-ef".toList]

/-- What a word means by itself. -/
def meaning (word : Text) : ConditionWord :=
  if fileOperators.contains word then .onFile
  else if comparisons.contains word then .comparison
  else
    match String.ofList word with
    | "-n" | "-z" => .onText
    | "!" => .negation
    | "(" => .opening
    | ")" => .closing
    | "-a" => .both
    | "-o" => .either
    | _ => .operand

/-- What the next word is for: an operator of one operand that has none, or that a comparison
follows, is an operand. -/
def nextWord : List Text → ConditionWord
  | [] => .finish
  | word :: rest =>
    let found := meaning word
    let isOperand := match rest with
      | [] => true
      | [_] => false
      | second :: _ => meaning second == .comparison
    if (found == .onFile || found == .onText) && isOperand then .operand
    else if found == .opening && rest.isEmpty then .operand
    else found

/-- A file has a property. -/
def hasProperty (tree : FileTree) (op path : Text) : Bool :=
  let found := (tree.find path).toOption.map Prod.snd
  let isLink := match tree.inspect path with
    | .ok (_, .link _) => true
    | _ => false
  let (isFile, isEmpty, runs) := match found with
    | some (.file content executable) => (true, content.isEmpty, executable)
    | some .folder => (false, false, true)
    | _ => (false, true, false)
  match String.ofList op with
  | "-e" | "-r" | "-w" | "-O" | "-G" => found.isSome
  | "-f" => isFile
  | "-d" => found == some .folder
  | "-s" => !isEmpty
  -- Folders can be entered, and count as files that run.
  | "-x" => runs
  | "-L" | "-h" => isLink
  | "-c" => found == some .void
  | _ => false

/-- A number in a condition. -/
def numberIn (word : Text) : Except ConditionFault Int :=
  match numberOf? false word with
  | some n => .ok n
  | none => .error (.noNumber word)

/-- The truth of a comparison. -/
def compare (tree : FileTree) (op a b : Text) : Except ConditionFault Bool :=
  let numbers (holds : Int → Int → Bool) : Except ConditionFault Bool := do
    return holds (← numberIn a) (← numberIn b)
  match String.ofList op with
  | "=" => .ok (a == b)
  | "!=" => .ok (a != b)
  | "<" => .ok (Text.order a b == .lt)
  | ">" => .ok (Text.order a b == .gt)
  | "-eq" => numbers (· == ·)
  | "-ne" => numbers (· != ·)
  | "-lt" => numbers (· < ·)
  | "-le" => numbers (· ≤ ·)
  | "-gt" => numbers (· > ·)
  | "-ge" => numbers (· ≥ ·)
  | "-ef" => .ok ((tree.find a).toOption.isSome &&
      (tree.find a).toOption.map Prod.fst == (tree.find b).toOption.map Prod.fst)
  | _ => .ok false

mutual

/-- Conditions one of which must hold, and the words after them. -/
def anyCondition (tree : FileTree) : Nat → List Text → Except ConditionFault (Bool × List Text)
  | 0, words => .ok (false, words)
  | steps + 1, words => do
    let (first, rest) ← allConditions tree steps words
    if nextWord rest = .either then
      let (second, after) ← anyCondition tree steps (rest.drop 1)
      return (first || second, after)
    else return (first, rest)

/-- Conditions that must all hold, and the words after them. -/
def allConditions (tree : FileTree) : Nat → List Text → Except ConditionFault (Bool × List Text)
  | 0, words => .ok (false, words)
  | steps + 1, words => do
    let (first, rest) ← oneCondition tree steps (nextWord words) words
    if nextWord rest = .both then
      let (second, after) ← allConditions tree steps (rest.drop 1)
      return (first && second, after)
    else return (first, rest)

/-- A condition that starts with a word of some use, and the words after it. -/
def oneCondition (tree : FileTree) :
    Nat → ConditionWord → List Text → Except ConditionFault (Bool × List Text)
  | 0, _, words => .ok (false, words)
  | steps + 1, use, words =>
    match use, words with
    | .negation, _ :: rest => do
      let (holds, after) ← oneCondition tree steps (nextWord rest) rest
      return (!holds, after)
    | .opening, _ :: rest => do
      -- Nothing between brackets does not hold.
      if nextWord rest = .closing then return (false, rest.drop 1)
      let (holds, after) ← anyCondition tree steps rest
      if nextWord after = .closing then return (holds, after.drop 1) else throw .openBracket
    | .onFile, op :: rest =>
      match rest with
      | [] => .error (.noArgument op)
      | path :: after => .ok (hasProperty tree op path, after)
    | .onText, op :: rest =>
      match rest with
      | [] => .error (.noArgument op)
      | word :: after => .ok (word.isEmpty == (op == "-z".toList), after)
    | _, [] => .ok (false, [])
    | _, first :: rest =>
      match nextWord rest, rest with
      | .comparison, op :: second :: after => do
        return (← compare tree op first second, after)
      | .comparison, [op] => .error (.noArgument op)
      | _, _ => .ok (!first.isEmpty, rest)

end

/-- The truth of a condition; a comparison in the middle of three words makes the others
operands. -/
def holds (tree : FileTree) (words : List Text) : Except ConditionFault Bool := do
  let steps := 4 * words.length + 4
  let (truth, rest) ← match words with
    | [] => pure (false, [])
    | [_, op, _] =>
      if meaning op = .comparison then oneCondition tree steps .operand words
      else anyCondition tree steps words
    | _ => anyCondition tree steps words
  match rest with
  | [] => return truth
  | _ => throw (.unexpected ((words.take (words.length - rest.length)).getLast?.getD []))

end Shell
end IdlScout
