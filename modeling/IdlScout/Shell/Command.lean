import IdlScout.Text.Numeral

/-! The small command language of the scripts that a run may start: words, commands, and what can
be wrong with a script. -/

namespace IdlScout
namespace Shell

/-- What a word after the name of a parameter is for. -/
inductive StandIn where
  /-- It is taken for a value that is missing. -/
  | instead
  /-- It is taken so, and becomes the value. -/
  | assigned
  /-- It tells that the value is missing, and the script ends. -/
  | complaint
  /-- It is taken for a value that is there. -/
  | replacing
  deriving Repr, DecidableEq

/-- What is made of the value of a parameter. -/
inductive Rule where
  | value
  | length
  /-- An empty value counts as missing if the flag says so. -/
  | standIn (use : StandIn) (orEmpty : Bool) (word : Text)
  /-- The shortest or the longest piece at an end that a pattern describes is cut off. -/
  | cut (atEnd longest : Bool) (pattern : Text)
  /-- There is no such rule. -/
  | unknown
  deriving Repr, DecidableEq

/-- A piece of a word. What is quoted is not split, and has no pattern characters. -/
inductive WordPart where
  | text (content : Text) (quoted : Bool)
  | parameter (name : Text) (rule : Rule) (quoted : Bool)
  /-- The value of an arithmetic expression. -/
  | sum (expression : Text) (quoted : Bool)
  /-- The output of a script. -/
  | output (script : Text) (quoted : Bool)
  deriving Repr, DecidableEq

/-- A word as it is written. -/
abbrev Word := List WordPart

/-- What a redirection does to a stream. -/
inductive RedirectKind where
  | readFile
  | writeFile
  | appendFile
  /-- The stream becomes what another one is. -/
  | copy
  /-- The stream is read from the text at hand. -/
  | hereText
  deriving Repr, DecidableEq

/-- A redirection of a numbered stream. -/
structure Redirect where
  stream : Nat
  kind : RedirectKind
  target : Word
  deriving Repr, DecidableEq

/-- What can be wrong with a script. -/
inductive ScriptFault where
  /-- Something stands where it cannot, and something else may have been wanted there. -/
  | unexpected (found : Text) (wanted : Option Text)
  | openQuote
  | openBrace
  | openSum
  | loopVariable
  | functionName
  deriving Repr, DecidableEq

/-- The wording of a fault. -/
def ScriptFault.message : ScriptFault → Text
  | .unexpected found none => found ++ " unexpected".toList
  | .unexpected found (some wanted) =>
    found ++ " unexpected (expecting ".toList ++ wanted ++ ")".toList
  | .openQuote => "Unterminated quoted string".toList
  | .openBrace => "Missing '\x7d'".toList
  | .openSum => "Missing '))'".toList
  | .loopVariable => "Bad for loop variable".toList
  | .functionName => "Bad function name".toList

/-- A fault of a script and its line. -/
abbrev LineFault := Nat × ScriptFault

/-- A command. -/
inductive Command where
  | simple (line : Nat) (assignments : List (Text × Word)) (words : List Word)
      (redirects : List Redirect)
  | sequence (commands : List Command)
  /-- The second one is run if the first succeeds. -/
  | both (first second : Command)
  /-- The second one is run if the first fails. -/
  | either (first second : Command)
  | negated (body : Command)
  /-- The second one reads what the first one writes. -/
  | pipe (first second : Command)
  | branch (condition body : Command) (otherwise : Option Command)
  | loop (wanted : Bool) (condition body : Command)
  /-- Without values, the parameters are taken. -/
  | each (name : Text) (values : Option (List Word)) (body : Command)
  | select (word : Word) (choices : List (List Word × Command))
  /-- A command that leaves no trace in the state of the shell. -/
  | nested (body : Command)
  /-- A command that reads nothing, and whose success does not count. -/
  | aside (body : Command)
  | redirected (body : Command) (redirects : List Redirect)
  | define (name : Text) (body : Command)
  /-- The script cannot be read on. -/
  | refused (fault : LineFault)
  deriving Repr

end Shell
end IdlScout
