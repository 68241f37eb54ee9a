import IdlScout.Shell.Builtin
import IdlScout.Shell.Expansion
import IdlScout.Shell.Program

/-! Scripts run one task at a time, up to a wait or their end. -/

namespace IdlScout
namespace Shell

/-- The number that a shell knows an end by. -/
def statusOf : Option ExitStatus → Nat
  | some (.exited code) => code
  | some (.killed signal) => 128 + signal
  | none => 0

namespace State

/-- A shell goes on after a part of it ended that leaves no trace in its variables. -/
def adopt (outer inner : State) : State :=
  { outer with
    -- Files, streams and time are shared; variables and the folder are not.
    tree := { inner.tree with home := outer.tree.home }
    files := inner.files, buffers := inner.buffers, input := inner.input,
    inputOpen := inner.inputOpen, out := inner.out, err := inner.err, sent := inner.sent,
    clock := inner.clock, status := statusOf inner.ending }

/-- Whether the success of the command at hand is asked for. -/
def isTested (todo : List Task) : Bool :=
  todo.any fun task =>
    match task with
    | .follow .. | .choose .. | .judge .. | .negate => true
    | _ => false

/-- A command is run apart, with some streams connected to others. -/
def runApart (nested : State → State) (state : State) (links : List (Nat × Stream))
    (command : Command) : State :=
  let linked := links.foldl (fun state (number, stream) => state.connect number stream) state
  -- Inside a condition failures end nothing, however deep they are.
  let flags := if isTested state.todo then state.flags.filter (· != 'e') else state.flags
  state.adopt (nested { linked with
    traps := state.traps.filter fun trap => trap.2.isEmpty
    flags, todo := [.run command, .quit none] })

/-- The text that a script writes, without line feeds at its end. -/
def outputOf (nested : State → State) (state : State) (text : Text) : State × Text :=
  let (index, started) := state.addBuffer []
  let ended := started.runApart nested [(1, .buffer index)] (script text)
  let written := Utf8.decodeLossy ((ended.buffers[index]?).getD [])
  (ended, (written.reverse.dropWhile (· == '\n')).reverse)

/-- The second command reads what the first one writes. -/
def runPipe (nested : State → State) (state : State) (first second : Command) : State :=
  let (index, started) := state.addBuffer []
  -- The first command is done before the second starts, which makes no difference to what is
  -- written.
  let written := started.runApart nested [(1, .buffer index)] first
  written.runApart nested [(0, .buffer index)] second

/-- A command is put aside: it reads nothing, and takes its time while the script goes on. -/
def putAside (nested : State → State) (state : State) (command : Command) : State :=
  let (index, started) := state.addBuffer []
  let ended := started.runApart nested [(0, .buffer index)] command
  -- The clock is put back, as the script does not wait for what was put aside.
  { ended with clock := state.clock, job := some ⟨ended.status, ended.clock⟩ }.withStatus 0

/-- A program runs as a part of a shell. -/
def runProgram (nested : State → State) (state : State) (program : Program) : State :=
  state.adopt (nested (state.become program))

/-- A tool is used at once, so that its waits are those of the shell; a script runs apart. -/
def runNamed (nested : State → State) (state : State) (name : Text) (arguments : List Text) :
    State :=
  match program state.tree name arguments with
  | .ok (.tool name arguments) => state.push [.tool name arguments]
  | .ok program => state.runProgram nested program
  | .error .forbidden =>
    (state.complain (name ++ ": Permission denied".toList)).withStatus 126
  | .error .noProgram =>
    state.runProgram nested (shellProgram state.tree "sh".toList (name :: arguments))
  | .error (.path _) =>
    if name.isEmpty then (state.complain ": Permission denied".toList).withStatus 127
    else (state.complain (name ++ ": not found".toList)).withStatus 127

/-- A program takes the place of the shell. -/
def replace (state : State) (name : Text) (arguments : List Text) : State :=
  match program state.tree name arguments with
  | .ok program => state.become program
  | .error .forbidden =>
    (state.complain ("exec: ".toList ++ name ++ ": Permission denied".toList)).leave 126
  | .error .noProgram => state.become (shellProgram state.tree "sh".toList (name :: arguments))
  | .error (.path _) =>
    (state.complain ("exec: ".toList ++ name ++ ": not found".toList)).leave 127

/-- A stream is connected to a file, or there is a complaint. -/
def openStream (state : State) (number : Nat) (append : Bool) (path : Text) :
    Except Text State :=
  match state.tree.openFile path append with
  | .ok (handle, tree) =>
    .ok ({ state with tree, files := state.files ++ [handle] }.connect number
      (.file state.files.length))
  | .error fault =>
    let reason := match fault with
      | .isFolder => "Is a directory"
      | _ => "Directory nonexistent"
    .error ("cannot create ".toList ++ path ++ ": ".toList ++ reason.toList)

/-- A stream of the shell becomes what another one is, or is closed. -/
def copyStream (state : State) (number : Nat) (target : Text) : Except Text State :=
  if target = ['-'] then
    .ok { state with streams := state.streams.filter fun entry => entry.1 != number }
  else
    match (Numeral.read? Numeral.max32 target).bind fun n => state.streams.lookup n with
    | some stream => .ok (state.connect number stream)
    | none => .error (target ++ ": Bad file descriptor".toList)

/-- A redirection is made, or there is a complaint. -/
def redirect (nested : State → State) (state : State) (wish : Redirect) :
    State × Option Text :=
  let (state, target) := expandWhole (outputOf nested) state wish.target
  let target := textOf target
  let made : Except Text State :=
    match wish.kind with
    | .writeFile => state.openStream wish.stream false target
    | .appendFile => state.openStream wish.stream true target
    | .copy => state.copyStream wish.stream target
    | .hereText =>
      let (index, state) := state.addBuffer (Utf8.encode target)
      .ok (state.connect wish.stream (.buffer index))
    | .readFile =>
      match state.tree.read target with
      | .ok content =>
        let (index, state) := state.addBuffer content
        .ok (state.connect wish.stream (.buffer index))
      | .error _ => .error ("cannot open ".toList ++ target ++ ": No such file".toList)
  match made with
  | .ok made => (made, none)
  | .error complaint => (state, some complaint)

/-- Redirections are made up to the first that cannot be; it is complained about, or ends the
script. -/
def redirectAll (nested : State → State) (ends : Bool) (state : State) :
    List Redirect → State × Bool
  | [] => (state, state.complaint.isNone)
  | wish :: rest =>
    match state.redirect nested wish with
    | (state, none) =>
      if state.complaint.isSome then (state, false) else state.redirectAll nested ends rest
    | (state, some complaint) =>
      (if ends then state.giveUp complaint else state.complain complaint, false)

/-- Variables are set to the values of words. -/
def assignWords (nested : State → State) (state : State) (assignments : List (Text × Word)) :
    State :=
  assignments.foldl (fun state (name, word) =>
    let (state, value) := expandWhole (outputOf nested) state word
    state.assign name (textOf value)) state

/-- A command is shown before it is carried out, if that is wanted. -/
def trace (state : State) (assigned : List Text) (words : List Text) : State :=
  if state.has 'x' then
    let settings := assigned.map fun name => name ++ ['='] ++ state.valueOf name
    state.say 2 ("+ ".toList ++ Text.join [' '] (settings ++ words) ++ ['\n'])
  else state

/-- A command that is no function: one of the shell's own, or a program. -/
def performPlain (nested : State → State) (state : State) (name : Text) (arguments : List Text) :
    State :=
  let named := if name = "command".toList then arguments.head? else none
  match state.useBuiltin? (fieldMarks state) name arguments with
  | some next => next
  | none =>
    match named with
    | none => state.runNamed nested name arguments
    | some name =>
      match state.useBuiltin? (fieldMarks state) name (arguments.drop 1) with
      | some next => next
      | none => state.runNamed nested name (arguments.drop 1)

/-- A command with its words. -/
def perform (nested : State → State) (state : State) (name : Text) (arguments : List Text) :
    State :=
  match state.functions.lookup name with
  | some body =>
    { state.push [.run body, .comeBack state.parameters []] with parameters := arguments }
  | none => state.performPlain nested name arguments

/-- A simple command with its redirections made. Assignments hold for it alone, unless it is one of
the special ones. -/
def performWith (nested : State → State) (state : State) (assignments : List (Text × Word))
    (name : Text) (arguments : List Text) : State :=
  let names := assignments.map Prod.fst
  let assigned := state.assignWords nested assignments
  if assigned.complaint.isSome then assigned
  else
    let shown := assigned.trace names (name :: arguments)
    if name = "exec".toList then
      match arguments with
      | [] => shown.withStatus 0
      | command :: arguments =>
        { shown with exported := names ++ shown.exported }.replace command arguments
    else if names.isEmpty || specialNames.contains name then shown.perform nested name arguments
    else
      let kept := shown.push [.restore (state.held names).reverse state.exported]
      { kept with exported := names ++ kept.exported }.perform nested name arguments

/-- Nothing in a command runs a script for its output. -/
def isSilent (assignments : List (Text × Word)) (words : List Word) : Bool :=
  !(assignments.map Prod.snd ++ words).any fun word => word.any fun part =>
    match part with
    | .output .. => true
    | _ => false

/-- A simple command; without words it succeeds, unless an output decides. -/
def runSimple (nested : State → State) (state : State) (assignments : List (Text × Word))
    (words : List Word) (redirects : List Redirect) : State :=
  let silent := isSilent assignments words
  let (state, words) := expandAll (outputOf nested) state words
  if state.complaint.isSome then state
  else
    let before := state.streams
    let name := words.headD []
    let restored (state : State) : State :=
      if redirects.isEmpty then state else { state with streams := before }
    match state.redirectAll nested (specialNames.contains name) redirects with
    | (state, false) => (restored state).withStatus 2
    | (state, true) =>
      match words with
      | [] =>
        let assigned := (restored state).assignWords nested assignments
        let shown := assigned.trace (assignments.map Prod.fst) []
        -- The status of an output that was asked for stays.
        if silent then shown.withStatus 0 else shown
      | name :: arguments =>
        let keeps := redirects.isEmpty || name = "exec".toList
        let state := if keeps then state else state.push [.reconnect before]
        state.performWith nested assignments name arguments

/-- The first choice with a pattern that describes a text. -/
def choose (nested : State → State) (text : Text) :
    State → List (List Word × Command) → State
  | state, [] => state.withStatus 0
  | state, (patterns, body) :: rest =>
    let (state, found) := patterns.foldl (fun ((state, found) : State × Bool) word =>
      let (state, pattern) := expandWhole (outputOf nested) state word
      (state, found || isMatch pattern text)) (state, false)
    if found then state.push [.run body] else choose nested text state rest

/-- A failure of the command may end the script. -/
def watched (state : State) : State :=
  if state.has 'e' then state.push [.check] else state

/-- A command starts. -/
def start (nested : State → State) (state : State) : Command → State
  | .simple line assignments words redirects =>
    { state with line }.watched.runSimple nested assignments words redirects
  | .sequence commands => state.push (commands.map .run)
  | .both first second => state.push [.run first, .follow true second]
  | .either first second => state.push [.run first, .follow false second]
  | .negated body => state.push [.run body, .negate]
  | .pipe first second => state.watched.runPipe nested first second
  | .branch condition body otherwise => state.push [.run condition, .choose body otherwise]
  | .loop wanted condition body => state.push [.again wanted condition body]
  | .each name values body =>
    match values with
    | none => state.push [.eachNext name state.parameters body]
    | some words =>
      let (state, values) := expandAll (outputOf nested) state words
      state.push [.eachNext name values body]
  | .select word choices =>
    let (state, text) := expandWhole (outputOf nested) state word
    choose nested (textOf text) state choices
  | .nested body => state.watched.runApart nested [] body
  | .aside body => state.putAside nested body
  | .redirected body redirects =>
    let before := state.streams
    match state.redirectAll nested false redirects with
    | (state, true) => state.push [.run body, .reconnect before]
    | (state, false) => { state with streams := before }.withStatus 2
  | .define name body => { state with functions := (name, body) :: state.functions }.withStatus 0
  | .refused (line, fault) =>
    { state with line }.giveUp ("Syntax error: ".toList ++ fault.message)

/-- The program ends, unless something is to be done before. -/
def quit (state : State) (status : Nat) : State :=
  match state.traps.lookup 0 with
  | some action =>
    { state with
      traps := state.traps.filter fun trap => trap.1 != 0, status
      todo := [.run (script action), .quit (some status)] }
  | none => { state with todo := [], ending := some (.exited (status % 256)) }

/-- A task is done. -/
def work (nested : State → State) (state : State) : Task → State
  | .run command => state.start nested command
  | .follow wanted command =>
    if (state.status == 0) == wanted then state.push [.run command] else state
  | .negate => state.succeed (state.status != 0)
  | .choose body otherwise =>
    if state.status = 0 then state.push [.run body]
    else
      match otherwise with
      | some command => state.push [.run command]
      | none => state.withStatus 0
  | .again wanted condition body =>
    state.push [.run condition, .judge wanted condition body]
  | .judge wanted condition body =>
    if (state.status == 0) == wanted then
      state.push [.run body, .again wanted condition body]
    else state.withStatus 0
  | .eachNext _ [] _ => state
  | .eachNext name (value :: values) body =>
    (state.assign name value).push [.run body, .eachNext name values body]
  | .reconnect streams => { state with streams }
  | .restore held exported => { state.giveBack held with exported }
  | .comeBack parameters held => { state.giveBack held with parameters }
  | .check =>
    if state.status != 0 && state.has 'e' && !isTested state.todo then state.leave state.status
    else state
  | .tool name arguments => state.useTool name arguments
  | .readLine raw marks names => state.readInto raw marks names
  | .readCommands =>
    if state.inputOpen then { state.push [.readCommands] with pause := some .input }
    else
      let text := Utf8.decodeLossy state.input
      { state with input := [] }.push [.run (script text)]
  | .setStatus status => state.withStatus status
  | .quit status => state.quit (status.getD state.status)

/-- A script that cannot go on says why, and ends. -/
def conclude (state : State) : State :=
  match state.complaint with
  | some complaint => ({ state with complaint := none }.complain complaint).leave 2
  | none => state

/-- What is to be done on a signal comes before the next task. -/
def step (nested : State → State) (state : State) : State :=
  match state.pending with
  | signal :: pending =>
    let rest := { state with pending }
    match state.traps.lookup signal with
    -- An action leaves the status of the command before it.
    | some action => rest.push [.run (script action), .setStatus state.status]
    | none => rest
  | [] =>
    match state.todo with
    | [] => state.quit state.status
    | task :: todo => ({ state with todo }.work nested task).conclude

/-- A wait is over: the moment came, or there is nothing more to read. -/
def wake (state : State) : State :=
  match state.pause with
  | some (.moment time) => { state with pause := none, clock := max state.clock time }
  -- A program is woken with all its input given, so waiting on means that no more will come.
  | some .input => { state with pause := none, inputOpen := false }
  | none => state

/-- A program runs to its end, and waits as long as it has to. -/
def settle : Nat → State → State
  | 0, state => { state with ending := some (.killed Signal.kill) }
  | fuel + 1, state =>
    if state.ending.isSome then state
    else if state.pause.isSome then settle fuel state.wake
    else settle fuel (state.step (settle fuel))

/-- A program runs until it waits or ends. -/
def runWithin : Nat → State → State
  | 0, state => { state with ending := some (.killed Signal.kill) }
  | fuel + 1, state =>
    if state.ending.isSome || state.pause.isSome then state
    else runWithin fuel (state.step (settle fuel))

/-- The most tasks of a program between two waits. -/
def taskLimit : Nat := 1000000

/-- A program runs until it waits or ends. -/
def run (state : State) : State :=
  runWithin taskLimit state

/-- A program at its start, with its variables and what it can read. -/
def launch (tree : FileTree) (environment : List (Text × Text)) (program : Program) (input : Bytes)
    (inputOpen : Bool) : State :=
  let start : State := {
    tree, input, inputOpen, values := environment, exported := environment.map Prod.fst }
  start.become program

/-- What was written to the first stream. -/
def written (state : State) : Bytes :=
  state.out.reverse.flatten

/-- What was written to the second stream. -/
def complaints (state : State) : Bytes :=
  state.err.reverse.flatten

end State
end Shell
end IdlScout
