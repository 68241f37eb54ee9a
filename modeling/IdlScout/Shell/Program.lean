import IdlScout.Shell.Reader
import IdlScout.Shell.State

/-! Which program a command line starts: one of the known tools, or a script. -/

namespace IdlScout
namespace Shell

/-- What a command line starts. -/
inductive Program where
  | tool (name : Text) (arguments : List Text)
  /-- The letters are those of the options that are on. -/
  | script (name : Text) (parameters : List Text) (text : Text) (flags : List Char)
  /-- A script that the parent writes. -/
  | dictated (name : Text) (parameters : List Text) (flags : List Char)
  /-- A shell that cannot do what it is asked to. -/
  | refusal (complaint : Text) (status : Nat)
  deriving Repr, DecidableEq

end Shell

/-- Why nothing is started. -/
inductive LaunchFault where
  | path (fault : PathFault)
  | forbidden
  | noProgram
  deriving Repr, DecidableEq

namespace Shell

/-- The tools that are always there. -/
def toolNames : List Text :=
  ["cat".toList, "true".toList, "false".toList, "sleep".toList, "printf".toList, "echo".toList]

/-- The names of shells. -/
def shellNames : List Text :=
  ["sh".toList, "dash".toList, "bash".toList]

/-- The folders that tools and shells stand in. -/
def toolFolders : List Text :=
  ["/bin".toList, "/usr/bin".toList]

/-- The name of the tool or shell that a path leads to. -/
def toolAt? (path : Text) : Option Text :=
  match Path.parent? path, Path.lastName? path with
  | some folder, some name =>
    if toolFolders.any (Path.same folder) && (toolNames ++ shellNames).contains name then some name
    else none
  | _, _ => none

/-- The letters of options that a shell knows. -/
def optionLetters : Text := "abCcefhmnsuvx".toList

/-- The letters of the options before other words, and those words. -/
def shellOptions : List Text → Text × List Text
  | ['-'] :: rest | ['-', '-'] :: rest => ([], rest)
  | ('-' :: letters) :: rest =>
    let (more, words) := shellOptions rest
    (letters ++ more, words)
  | words => ([], words)

/-- What a shell runs, given its arguments. -/
def shellProgram (tree : FileTree) (name : Text) (arguments : List Text) : Program :=
  let (letters, words) := shellOptions arguments
  let flags := letters.filter fun letter => letter != 'c' && letter != 's'
  let speak (complaint : Text) : Program := .refusal (name ++ ": 0: ".toList ++ complaint) 2
  match letters.find? fun letter => !optionLetters.contains letter with
  | some letter => speak ("Illegal option -".toList ++ [letter])
  | none =>
    if letters.contains 'c' then
      match words with
      | [] => speak "-c requires an argument".toList
      | [text] => .script name [] text flags
      | text :: self :: parameters => .script self parameters text flags
    else if letters.contains 's' then .dictated name words flags
    else
      match words with
      | [] => .dictated name [] flags
      | path :: parameters =>
        match tree.read path with
        | .ok content => .script path parameters (Utf8.decodeLossy content) flags
        | .error _ => speak ("cannot open ".toList ++ path ++ ": No such file".toList)

/-- What a tool or shell does with arguments. -/
def namedProgram (tree : FileTree) (name : Text) (arguments : List Text) : Program :=
  if shellNames.contains name then shellProgram tree name arguments else .tool name arguments

/-- The first line of a script names its interpreter, with one argument at most. -/
def interpreterLine? (content : Bytes) : Option (List Text) :=
  match Utf8.decodeLossy (content.takeWhile (· != 10)) with
  | '#' :: '!' :: line =>
    let line := (line.dropWhile isGap).reverse.dropWhile isGap |>.reverse
    let name := line.takeWhile fun c => !isGap c
    let argument := (line.drop name.length).dropWhile isGap
    some (name :: if argument.isEmpty then [] else [argument])
  | _ => none
where
  /-- Blanks in the line. -/
  isGap (c : Char) : Bool := c == ' ' || c == '\t'

/-- The command that an interpreter's line stands for; one may look its own program up by name. -/
def interpreter? (words : List Text) : Option (Text × List Text) :=
  match words with
  | [] => none
  | path :: arguments =>
    if Path.same path "/usr/bin/env".toList then
      match arguments with
      | [name] => if (toolNames ++ shellNames).contains name then some (name, []) else none
      | _ => none
    else (toolAt? path).map fun name => (name, arguments)

/-- What a file starts. -/
def fileProgram (tree : FileTree) (path : Text) (arguments : List Text) :
    Except LaunchFault Program :=
  match tree.find path with
  | .error fault => .error (.path fault)
  | .ok (_, .file content executable) =>
    -- The right to be run is looked at before the content.
    if !executable then .error .forbidden
    else
      match interpreterLine? content with
      | none => .error .noProgram
      | some words =>
        match interpreter? words with
        | some (name, before) => .ok (namedProgram tree name (before ++ path :: arguments))
        -- An interpreter that is not known counts as one that is not there.
        | none => .error (.path .missing)
  | .ok _ => .error .forbidden

/-- What a command line starts: a name without a slash is that of a tool. -/
def program (tree : FileTree) (command : Text) (arguments : List Text) :
    Except LaunchFault Program :=
  if command.contains '/' then
    match toolAt? command with
    | some name => .ok (namedProgram tree name arguments)
    | none => fileProgram tree command arguments
  else if (toolNames ++ shellNames).contains command then
    .ok (namedProgram tree command arguments)
  else .error (.path .missing)

/-- A program at its start takes the place of another; it keeps its streams and the variables that
are exported. -/
def State.become (state : State) (program : Program) : State :=
  let fresh := { state with
    parameters := [], functions := [], constants := [], flags := [], status := 0, job := none,
    line := 1, pending := [],
    values := state.values.filter fun entry => state.exported.contains entry.1
    -- Signals that are ignored stay so; other actions belong to the script that set them.
    traps := state.traps.filter fun trap => trap.2.isEmpty }
  match program with
  | .tool name arguments =>
    { fresh with name, todo := [.tool name arguments, .quit none] }
  | .script name parameters text flags =>
    { fresh with name, parameters, flags, todo := [.run (script text), .quit none] }
  | .dictated name parameters flags =>
    { fresh with name, parameters, flags, todo := [.readCommands, .quit none] }
  | .refusal complaint status =>
    { fresh.say 2 (complaint ++ ['\n']) with todo := [.quit (some status)] }

end Shell
end IdlScout
