import IdlScout.Child.Status
import IdlScout.Shell.Command
import IdlScout.Text.Utf8

/-! The state of a running script: its variables and streams, and what is still to be done. -/

namespace IdlScout
namespace Shell

/-- What a numbered stream is connected to. -/
inductive Stream where
  /-- What the parent writes. -/
  | input
  /-- What the parent reads first. -/
  | out
  /-- What the parent reads second. -/
  | err
  /-- An open file. -/
  | file (index : Nat)
  /-- A text that is read, or that output is collected in. -/
  | buffer (index : Nat)
  deriving Repr, DecidableEq

/-- A second on the clock, which counts nanoseconds. -/
def second : Nat := 1000000000

/-- What a program waits for. -/
inductive Pause where
  /-- A moment, in nanoseconds. -/
  | moment (time : Nat)
  /-- Something to read. -/
  | input
  deriving Repr, DecidableEq

/-- What is still to be done. -/
inductive Task where
  | run (command : Command)
  /-- A command is run if the last one succeeded, or failed. -/
  | follow (wanted : Bool) (command : Command)
  | negate
  | choose (body : Command) (otherwise : Option Command)
  /-- The body of a loop is run if the condition says so. -/
  | judge (wanted : Bool) (condition body : Command)
  /-- A loop starts again after its body. -/
  | again (wanted : Bool) (condition body : Command)
  /-- The next of several values is taken. -/
  | eachNext (name : Text) (values : List Text) (body : Command)
  /-- Redirections end. -/
  | reconnect (streams : List (Nat × Stream))
  /-- A function ends, and variables get back what they held before. -/
  | comeBack (parameters : List Text) (held : List (Text × Option Text))
  /-- Variables that were set for one command get back what they held before, and are exported as
  before. -/
  | restore (held : List (Text × Option Text)) (exported : List Text)
  /-- The script ends if the last command failed and failures end it. -/
  | check
  /-- Commands are read from what the parent writes. -/
  | readCommands
  /-- A tool works, or goes on. -/
  | tool (name : Text) (arguments : List Text)
  /-- A line is read into variables. -/
  | readLine (raw : Bool) (blanks : Text) (names : List Text)
  /-- The last status is set. -/
  | setStatus (status : Nat)
  /-- The program ends, with a given status or the last one. -/
  | quit (status : Option Nat)
  deriving Repr

/-- What was put aside: its status, and when it ends. -/
structure Job where
  status : Nat
  ending : Nat
  deriving Repr, DecidableEq

/-- The state of a program. -/
structure State where
  tree : FileTree
  name : Text := "sh".toList
  parameters : List Text := []
  values : List (Text × Text) := []
  /-- The variables that programs started here get. -/
  exported : List Text := []
  /-- The variables that cannot be set. -/
  constants : List Text := []
  /-- The letters of the options that are on. -/
  flags : List Char := []
  functions : List (Text × Command) := []
  status : Nat := 0
  /-- The last command that was put aside. -/
  job : Option Job := none
  /-- The line of the command at hand. -/
  line : Nat := 1
  /-- Why the script cannot go on. -/
  complaint : Option Text := none
  todo : List Task := []
  streams : List (Nat × Stream) := [(0, .input), (1, .out), (2, .err)]
  files : List Handle := []
  buffers : List Bytes := []
  /-- What the parent wrote and was not read. -/
  input : Bytes := []
  /-- The parent may write more. -/
  inputOpen : Bool := false
  /-- What the parent may read, the latest first. -/
  out : List Bytes := []
  err : List Bytes := []
  /-- What is done on signals; number zero is the end of the program. -/
  traps : List (Signal × Text) := []
  pending : List Signal := []
  /-- Signals sent to the parent. -/
  sent : List Signal := []
  /-- Nanoseconds since the start. -/
  clock : Nat := 0
  pause : Option Pause := none
  ending : Option ExitStatus := none
  deriving Repr

namespace State

/-- The value of a variable, empty if it has none. -/
def valueOf (state : State) (name : Text) : Text :=
  (state.values.lookup name).getD []

/-- The script cannot go on; the first reason counts. -/
def giveUp (state : State) (complaint : Text) : State :=
  { state with complaint := state.complaint <|> some complaint }

/-- A variable gets a value, or loses the one it has. -/
def hold (state : State) (name : Text) (value : Option Text) : State :=
  let others := state.values.filter fun entry => entry.1 != name
  { state with values := (value.map fun value => (name, value)).toList ++ others }

/-- A variable is set, unless it is constant. -/
def assign (state : State) (name value : Text) : State :=
  if state.constants.contains name then state.giveUp (name ++ ": is read only".toList)
  else
    let set := state.hold name (some value)
    if state.flags.contains 'a' then { set with exported := name :: set.exported } else set

/-- What variables hold. -/
def held (state : State) (names : List Text) : List (Text × Option Text) :=
  names.map fun name => (name, state.values.lookup name)

/-- Variables get back what they held, the latest of them first. -/
def giveBack (state : State) (held : List (Text × Option Text)) : State :=
  held.foldl (fun state (name, value) => state.hold name value) state

/-- An option is on. -/
def has (state : State) (flag : Char) : Bool :=
  state.flags.contains flag

/-- The last status is set. -/
def withStatus (state : State) (status : Nat) : State :=
  { state with status }

/-- A truth value as a status. -/
def succeed (state : State) (success : Bool) : State :=
  state.withStatus (if success then 0 else 1)

/-- A task comes before all others. -/
def push (state : State) (tasks : List Task) : State :=
  { state with todo := tasks ++ state.todo }

/-- A stream is connected to something. -/
def connect (state : State) (number : Nat) (stream : Stream) : State :=
  { state with
    streams := (number, stream) :: state.streams.filter fun entry => entry.1 != number }

/-- A buffer with some bytes, and its index. -/
def addBuffer (state : State) (content : Bytes) : Nat × State :=
  (state.buffers.length, { state with buffers := state.buffers ++ [content] })

/-- Bytes are written to a numbered stream; one that is not connected loses them. -/
def write (state : State) (number : Nat) (bytes : Bytes) : State :=
  match state.streams.lookup number with
  -- Writings are kept latest first, so that each takes the same time.
  | some .out => { state with out := bytes :: state.out }
  | some .err => { state with err := bytes :: state.err }
  | some (.file index) =>
    match state.files[index]? with
    | some handle =>
      let (handle, tree) := state.tree.write handle bytes
      { state with tree, files := state.files.set index handle }
    | none => state
  | some (.buffer index) =>
    { state with
      buffers := state.buffers.set index ((state.buffers[index]?).getD [] ++ bytes) }
  | _ => state

/-- A text is written to a numbered stream. -/
def say (state : State) (number : Nat) (text : Text) : State :=
  state.write number (Utf8.encode text)

/-- What can be read from a stream now, and whether more may come. -/
def readable (state : State) (number : Nat) : Bytes × Bool :=
  match state.streams.lookup number with
  | some .input => (state.input, state.inputOpen)
  | some (.buffer index) => ((state.buffers[index]?).getD [], false)
  | _ => ([], false)

/-- Some of what can be read is taken. -/
def consume (state : State) (number count : Nat) : State :=
  match state.streams.lookup number with
  | some .input => { state with input := state.input.drop count }
  | some (.buffer index) =>
    { state with
      buffers := state.buffers.set index (((state.buffers[index]?).getD []).drop count) }
  | _ => state

/-- A complaint about the command at hand. -/
def complain (state : State) (complaint : Text) : State :=
  state.say 2 (state.name ++ ": ".toList ++ Numeral.write state.line ++ ": ".toList ++ complaint ++
    ['\n'])

/-- The program ends; what it wants to do before that is done first. -/
def leave (state : State) (status : Nat) : State :=
  { state with todo := [.quit (some status)] }

end State
end Shell
end IdlScout
