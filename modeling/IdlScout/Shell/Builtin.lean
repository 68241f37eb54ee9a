import IdlScout.Shell.Condition
import IdlScout.Shell.Expansion
import IdlScout.Shell.Program
import IdlScout.Shell.Tool

/-! Commands that a shell carries out by itself. -/

namespace IdlScout
namespace Shell

/-- A word that names a signal: its number or its name; zero stands for the end of a program. -/
def signalOf? (word : Text) : Option Signal :=
  if !word.isEmpty && word.all isAsciiDigit then
    if Numeral.value word ≤ 64 then some (Numeral.value word) else none
  else if word = "EXIT".toList then some 0
  else Signal.ofName? ((Text.stripPrefix? "SIG".toList word).getD word)

/-- Commands whose failure ends a script. -/
def specialNames : List Text :=
  [":".toList, ".".toList, "break".toList, "continue".toList, "eval".toList, "exec".toList,
    "exit".toList, "export".toList, "readonly".toList, "return".toList, "set".toList,
    "shift".toList, "times".toList, "trap".toList, "unset".toList]

/-- Other commands that a shell carries out by itself. -/
def builtinNames : List Text :=
  ["[".toList, "cd".toList, "command".toList, "echo".toList, "false".toList, "kill".toList,
    "local".toList, "printf".toList, "pwd".toList, "read".toList, "test".toList, "true".toList,
    "type".toList, "umask".toList, "wait".toList]

/-- A text in single quotes, as it can be read back. -/
def requoted (text : Text) : Text :=
  ['\''] ++ text.flatMap (fun c => if c = '\'' then "'\"'\"'".toList else [c]) ++ ['\'']

namespace State

/-- A signal comes: it is noted for what is to be done on it, or ends the program. -/
def signal (state : State) (signal : Signal) : State :=
  match state.traps.lookup signal with
  | some action =>
    -- No action helps against the signal that no program survives.
    if signal = Signal.kill then { state with ending := some (.killed signal), todo := [] }
    else if action.isEmpty then state
    else { state with pending := state.pending ++ [signal] }
  | none =>
    if Signal.isHarmless signal then state
    else { state with ending := some (.killed signal), todo := [], pause := none }

/-- Tasks are given up down to a goal, which stays; what they would bring back is brought back. -/
def unwindTo (isGoal : Task → Bool) (state : State) : List Task → State
  | [] => { state with todo := [] }
  | task :: rest =>
    if isGoal task then { state with todo := task :: rest }
    else
      match task with
      -- What would have been undone later is undone on the way.
      | .reconnect streams => unwindTo isGoal { state with streams } rest
      | .restore held exported => unwindTo isGoal { state.giveBack held with exported } rest
      | _ => unwindTo isGoal state rest

/-- A task is the next turn of a loop. -/
def isTurn : Task → Bool
  | .again .. | .eachNext .. => true
  | _ => false

/-- A task is the end of a function. -/
def isComeBack : Task → Bool
  | .comeBack .. | .quit _ => true
  | _ => false

/-- The loops around the command at hand, up to the end of its function. -/
def loopDepth (state : State) : Nat :=
  ((state.todo.takeWhile fun task => !isComeBack task).filter isTurn).length

/-- So many loops are left, or all but the last of them are, which then turns. -/
def leaveLoops (state : State) (turns : Bool) : Nat → State
  | 0 => state
  | count + 1 =>
    let reached := state.unwindTo isTurn state.todo
    -- The last loop stays when it only turns.
    if count = 0 && turns then reached
    else leaveLoops { reached with todo := reached.todo.drop 1 } turns count

/-- A command of the shell says what is wrong with it, with a status. -/
def mind (state : State) (name : String) (complaint : Text) (status : Nat) : State :=
  (state.complain (name.toList ++ ": ".toList ++ complaint)).withStatus status

/-- A command of the shell ends the script. -/
def refuse (state : State) (name : String) (complaint : Text) : State :=
  state.giveUp (name.toList ++ ": ".toList ++ complaint)

/-- Signals are sent to programs known by their numbers; others are not there. -/
def sendSignal (state : State) (sent : Signal) : List Text → State
  | [] => state
  | target :: rest =>
    if target = ownNumber then (state.signal sent).sendSignal sent rest
    else if target = parentNumber then
      { state with sent := state.sent ++ [sent] }.sendSignal sent rest
    else
      match state.job with
      | some job =>
        if target = jobNumber && state.clock < job.ending then
          { state with job := some ⟨128 + sent, state.clock⟩ }.sendSignal sent rest
        else noProcess rest
      | none => noProcess rest
where
  /-- No program has the number. -/
  noProcess (rest : List Text) : State :=
    (state.mind "kill" "No such process\n".toList 1).sendSignal sent rest

/-- Signals are sent with a choice of the signal. -/
def sendAll (state : State) (sent : Signal) (targets : List Text) : State :=
  match targets.find? fun target => (numberOf? false target).isNone with
  | some target => state.mind "kill" ("Illegal number: ".toList ++ target) 2
  | none => (state.withStatus 0).sendSignal sent targets

/-- The command that sends signals. -/
def killAll (state : State) (arguments : List Text) : State :=
  match arguments with
  | [] =>
    let usage := "Usage: kill [-s sigspec | -signum | -sigspec] [pid | job]... or\n" ++
      "kill -l [exitstatus]"
    state.mind "kill" usage.toList 2
  | ['-', 's'] :: word :: targets =>
    match signalOf? word with
    | some sent => state.sendAll sent targets
    | none => state.mind "kill" ("invalid signal number or name: ".toList ++ word) 2
  | ['-', 'l'] :: words =>
    let names := words.filterMap fun word =>
      Signal.name? ((Numeral.read? Numeral.max32 word).getD 0 % 128)
    (state.say 1 (names.flatMap (· ++ ['\n']))).withStatus 0
  | ['-', '-'] :: targets => state.sendAll Signal.terminate targets
  | ('-' :: word) :: targets =>
    match signalOf? word with
    | some sent => state.sendAll sent targets
    | none => state.mind "kill" ("Illegal option -".toList ++ word.take 1) 2
  | targets => state.sendAll Signal.terminate targets

/-- What is done on signals is told. -/
def tellTraps (state : State) : State :=
  state.traps.foldl (fun state (signal, action) =>
    let name := (Signal.name? signal).getD "EXIT".toList
    state.say 1 ("trap -- ".toList ++ requoted action ++ [' '] ++ name ++ ['\n'])) state

/-- What is done on signals is set; without an action they do again what they did at first. -/
def setTraps (state : State) (arguments : List Text) : State :=
  match arguments with
  | [] => state.tellTraps.withStatus 0
  | [word] => set none [word]
  | action :: words =>
    -- A number in place of an action means that there is none.
    if (signalOf? action).isSome && action.all isAsciiDigit then set none (action :: words)
    else if action = ['-'] then set none words
    else set (some action) words
where
  /-- The action for the signals of words. -/
  set (action : Option Text) (words : List Text) : State :=
    let numbers := words.filterMap signalOf?
    let kept := state.traps.filter fun trap => !numbers.contains trap.1
    let added := (action.map fun action => numbers.map fun number => (number, action)).getD []
    let changed := { state with traps := kept ++ added }
    match words.find? fun word => (signalOf? word).isNone with
    | some word => (changed.say 2 ("trap: ".toList ++ word ++ ": bad trap\n".toList)).withStatus 1
    | none => changed.withStatus 0

/-- The end of a line is not among its bytes. -/
def lineOf (bytes : Bytes) : Bytes :=
  bytes.takeWhile (· != 10)

/-- A line that goes on after a backslash at its end, and how many bytes it takes; whether the
line feed is there. -/
def logicalLine (raw : Bool) : Nat → Bytes → Bytes × Nat × Bool
  | 0, _ => ([], 0, false)
  | steps + 1, bytes =>
    let line := lineOf bytes
    let ended := line.length < bytes.length
    -- A backslash at its end joins a line to the next.
    if ended && !raw && line.getLast? = some 92 then
      let (more, count, found) := logicalLine raw steps (bytes.drop (line.length + 1))
      (line.dropLast ++ more, line.length + 1 + count, found)
    else (line, line.length + (if ended then 1 else 0), ended)

/-- A backslash keeps the character after it. -/
def dropBackslashes : Text → Text
  | '\\' :: c :: rest => c :: dropBackslashes rest
  | ['\\'] => []
  | c :: rest => c :: dropBackslashes rest
  | [] => []

/-- The fields of a line for variables; the last one takes all that is left, without a mark at the
end when that is a single field. -/
def fieldsFor (marks line : Text) : List Text → List (Text × Text)
  | [] => []
  | [name] =>
    match fieldsFrom marks (line.length + 1) line with
    | [field] => [(name, field)]
    | _ => [(name, (line.reverse.dropWhile (isFieldBlank marks)).reverse)]
  | name :: more =>
    let field := line.takeWhile fun c => !marks.contains c
    let rest := (line.drop field.length).dropWhile (isFieldBlank marks)
    let rest := match rest with
      | c :: after => if marks.contains c then after.dropWhile (isFieldBlank marks) else rest
      | [] => []
    (name, field) :: fieldsFor marks rest more

/-- A line is read into variables, or awaited. -/
def readInto (state : State) (raw : Bool) (marks : Text) (names : List Text) : State :=
  let (bytes, more) := state.readable 0
  let (line, count, ended) := logicalLine raw (bytes.length + 1) bytes
  -- Half a line is left where it is until the rest has come.
  if !ended && more then
    { state.push [.readLine raw marks names] with pause := some .input }
  else
    let text := Utf8.decodeLossy line
    let text := (if raw then text else dropBackslashes text).dropWhile (isFieldBlank marks)
    let taken := state.consume 0 count
    ((fieldsFor marks text names).foldl (fun state (name, value) => state.assign name value)
      taken).succeed ended

/-- Options of a command that reads a line: whether backslashes stay, and the names. -/
def readOptions (raw : Bool) : List Text → Bool × List Text
  | ['-', 'r'] :: rest => readOptions true rest
  | ['-', 'p'] :: _ :: rest => readOptions raw rest
  | names => (raw, names)

/-- A number that an argument gives, or another; an argument that is no number ends the script. -/
def withNumber (state : State) (name : String) (arguments : List Text) (usual : Nat)
    (go : Nat → State) : State :=
  match arguments with
  | [] => go usual
  | word :: _ =>
    match Numeral.read? Numeral.max32 word with
    | some n => go n
    | none => state.refuse name ("Illegal number: ".toList ++ word)

/-- Variables are set from words with an equals sign; the names of all words. -/
def assignAll (state : State) (words : List Text) : State × List Text :=
  words.foldl (fun (state, names) word =>
    match Text.breakAt? '=' word with
    | some (name, value) => (state.assign name value, names ++ [name])
    | none => (state, names ++ [word])) (state, [])

/-- What variables held is noted where the function at hand ends. -/
def noteHeld (held : List (Text × Option Text)) : List Task → Option (List Task)
  | [] => none
  | .comeBack parameters before :: rest => some (.comeBack parameters (held ++ before) :: rest)
  | task :: rest => (noteHeld held rest).map (task :: ·)

/-- Variables of a function alone. -/
def makeLocal (state : State) (words : List Text) : State :=
  let names := words.map fun word => word.takeWhile (· != '=')
  match noteHeld (state.held names).reverse state.todo with
  | some todo => ({ state with todo }.assignAll words).1.withStatus 0
  | none => state.refuse "local" "not in a function".toList

/-- Options are put on or off, and parameters set. -/
def setOptions (state : State) : List Text → State
  | [] => state
  | ['-', '-'] :: parameters => { state with parameters }
  | ['-', 'o'] :: _ :: rest | ['+', 'o'] :: _ :: rest => setOptions state rest
  | ('-' :: letter :: letters) :: rest =>
    setOptions { state with flags := letter :: letters ++ state.flags } rest
  | ('+' :: letter :: letters) :: rest =>
    setOptions { state with
      flags := state.flags.filter fun flag => !(letter :: letters).contains flag } rest
  | parameters => { state with parameters }

/-- The home is changed. -/
def changeFolder (state : State) (arguments : List Text) : State :=
  let path := arguments.headD (state.valueOf "HOME".toList)
  let path := if path = ['-'] then state.valueOf "OLDPWD".toList else path
  match state.tree.find path with
  | .ok (location, .folder) =>
    let before := FileTree.spell state.tree.home
    let moved := { state with tree := { state.tree with home := location } }
    ((moved.assign "OLDPWD".toList before).assign "PWD".toList (FileTree.spell location)).withStatus
      0
  | _ =>
    if path.isEmpty then state.withStatus 0
    else state.mind "cd" ("can't cd to ".toList ++ path) 2

/-- What a name stands for: a word of the language, a function, a command of the shell or a
tool. -/
def placeOf? (state : State) (name : Text) : Option (Text × Text) :=
  if reservedWords.contains name then some (name, "a shell keyword".toList)
  else if (state.functions.lookup name).isSome then some (name, "a shell function".toList)
  else if specialNames.contains name then some (name, "a special shell builtin".toList)
  else if builtinNames.contains name then some (name, "a shell builtin".toList)
  else if (toolNames ++ shellNames).contains name then
    some ("/usr/bin/".toList ++ name, "/usr/bin/".toList ++ name)
  else if name.contains '/' && state.tree.has name then some (name, name)
  else none

/-- The places of names are told. -/
def tellPlaces (state : State) (verbose : Bool) (names : List Text) : State :=
  names.foldl (fun state name =>
    match state.placeOf? name with
    | some (place, kind) =>
      state.say 1 ((if verbose then name ++ " is ".toList ++ kind else place) ++ ['\n'])
    | none =>
      (if verbose then state.say 2 (name ++ ": not found\n".toList) else state).withStatus 127)
    (state.withStatus 0)

/-- Waiting for what was put aside. -/
def await (state : State) (arguments : List Text) : State :=
  match state.job with
  | none => state.withStatus (if arguments.isEmpty then 0 else 127)
  | some job =>
    let waited := if state.clock < job.ending then
        { state with pause := some (.moment job.ending) }
      else state
    waited.withStatus (if arguments = [jobNumber] then job.status
      else if arguments.isEmpty then 0 else 127)

/-- The truth of a condition as a status. -/
def decideCondition (state : State) (name : String) (words : List Text) : State :=
  match holds state.tree words with
  | .ok truth => state.succeed truth
  | .error fault => state.mind name fault.message 2

/-- A command that the shell carries out by itself, if it is one. The marks between fields are
those of the variable for them, which may be set for this command alone. -/
def useBuiltin? (state : State) (marks name : Text) (arguments : List Text) : Option State :=
  match String.ofList name with
  | ":" | "true" | "times" => some (state.withStatus 0)
  | "false" => some (state.withStatus 1)
  | "wait" => some (state.await arguments)
  | "umask" =>
    some ((if arguments.isEmpty then state.say 1 "0022\n".toList else state).withStatus 0)
  | "echo" =>
    some (match arguments with
      | ['-', 'n'] :: words => (state.write 1 (echoEscaped false false words)).withStatus 0
      | words => (state.write 1 (echoEscaped false true words)).withStatus 0)
  | "printf" =>
    let write (format : Text) (words : List Text) : State :=
      state.writeFormat ⟨false, false⟩ (fun state fault => state.mind "printf" fault.message 1)
        format words
    some (match arguments with
      | ['-', '-'] :: format :: words => write format words
      | [] | [['-', '-']] => state.mind "printf" "usage: printf format [arg ...]".toList 2
      | ('-' :: letter :: _) :: _ =>
        state.mind "printf" ("Illegal option -".toList ++ [letter]) 2
      | format :: words => write format words)
  | "read" =>
    let (raw, names) := readOptions false arguments
    some (if names.isEmpty then state.mind "read" "arg count".toList 2
      else state.push [.readLine raw marks names])
  | "exit" => some (state.withNumber "exit" arguments state.status state.leave)
  | "return" =>
    some (state.withNumber "return" arguments state.status fun status =>
      (state.withStatus status).unwindTo isComeBack state.todo)
  | "break" =>
    some (state.withNumber "break" arguments 1 fun count =>
      (state.leaveLoops false (min count state.loopDepth)).withStatus 0)
  | "continue" =>
    some (state.withNumber "continue" arguments 1 fun count =>
      (state.leaveLoops true (min count state.loopDepth)).withStatus 0)
  | "shift" =>
    some (state.withNumber "shift" arguments 1 fun count =>
      if count ≤ state.parameters.length then
        { state with parameters := state.parameters.drop count }.withStatus 0
      else state.refuse "shift" "can't shift that many".toList)
  | "set" => some ((state.setOptions arguments).withStatus 0)
  | "trap" => some (state.setTraps arguments)
  | "kill" => some (state.killAll arguments)
  | "test" => some (state.decideCondition "test" arguments)
  | "[" =>
    some (if arguments.getLast? = some [']'] then state.decideCondition "[" arguments.dropLast
      else state.mind "[" ConditionFault.noBracket.message 2)
  | "export" =>
    let (state, names) := state.assignAll arguments
    some ({ state with exported := names ++ state.exported }.withStatus 0)
  | "readonly" =>
    let (state, names) := state.assignAll arguments
    some ({ state with constants := names ++ state.constants }.withStatus 0)
  | "local" => some (state.makeLocal arguments)
  | "unset" =>
    some (match arguments with
      | ['-', 'f'] :: names =>
        { state with functions := state.functions.filter fun entry =>
            !names.contains entry.1 }.withStatus 0
      | names =>
        match names.find? state.constants.contains with
        | some name => state.refuse "unset" (name ++ ": is read only".toList)
        | none => (names.foldl (fun state name => state.hold name none) state).withStatus 0)
  | "eval" =>
    some ((state.withStatus 0).push [.run (script (Text.join [' '] arguments))])
  | "." =>
    some (match arguments with
      | [] => state.withStatus 0
      | path :: _ =>
        match state.tree.read path with
        | .ok content =>
          (state.withStatus 0).push
            [.run (script (Utf8.decodeLossy content)), .comeBack state.parameters []]
        | .error _ =>
          state.giveUp (".: cannot open ".toList ++ path ++ ": No such file".toList))
  | "cd" => some (state.changeFolder arguments)
  | "pwd" => some ((state.say 1 (FileTree.spell state.tree.home ++ ['\n'])).withStatus 0)
  | "type" => some (state.tellPlaces true arguments)
  | "command" =>
    match arguments with
    | [] => some (state.withStatus 0)
    | ['-', 'v'] :: names => some (state.tellPlaces false names)
    | ['-', 'V'] :: names => some (state.tellPlaces true names)
    | _ => none
  | _ => none

end State
end Shell
end IdlScout
