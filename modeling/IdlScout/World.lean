import IdlScout.Files.Tree

/-! All that a run can change outside itself: files, standard output and the log. -/

namespace IdlScout

/-- How grave a log event is, the gravest first. -/
inductive Level where
  | error
  | warn
  | info
  | debug
  | trace
  deriving Repr, DecidableEq

namespace Level

/-- The word for a level. -/
def word : Level → Text
  | .error => "ERROR".toList
  | .warn => "WARN".toList
  | .info => "INFO".toList
  | .debug => "DEBUG".toList
  | .trace => "TRACE".toList

/-- Graver levels have lower ranks. -/
def rank : Level → Nat
  | .error => 1
  | .warn => 2
  | .info => 3
  | .debug => 4
  | .trace => 5

end Level

/-- The parts of a run that log events come from. -/
inductive Area where
  | program
  | discovery
  | stopping
  | sections
  | types
  | output
  | session
  deriving Repr, DecidableEq

/-- An event in the log: its level, the part of the run it comes from, its wording, and named
values that belong to it. -/
structure LogEvent where
  level : Level
  area : Area
  message : Text
  fields : List (Text × Text) := []
  deriving Repr, DecidableEq

/-- Files, what was written to standard output, and the log so far. -/
structure World where
  tree : FileTree
  output : Bytes := []
  log : List LogEvent := []
  deriving Repr, DecidableEq

namespace World

/-- An event is added to the log. -/
def note (world : World) (level : Level) (area : Area) (message : Text)
    (fields : List (Text × Text) := []) : World :=
  { world with log := world.log ++ [⟨level, area, message, fields⟩] }

/-- Bytes are written to standard output. -/
def print (world : World) (bytes : Bytes) : World :=
  { world with output := world.output ++ bytes }

end World

/-- A step of something with a state of its own that changes the world and may fail. What it
changed before a fault stays changed. -/
abbrev Act (σ ε α : Type) := ExceptT ε (StateM (σ × World)) α

namespace Act

variable {σ ε : Type}

/-- The state. -/
def own : Act σ ε σ := do
  return (← get).1

/-- The state is changed. -/
def change (f : σ → σ) : Act σ ε Unit :=
  modify fun (state, world) => (f state, world)

/-- The world. -/
def world : Act σ ε World := do
  return (← get).2

/-- The world is changed. -/
def changeWorld (f : World → World) : Act σ ε Unit :=
  modify fun (state, world) => (state, f world)

/-- The files give way to others. -/
def setTree (tree : FileTree) : Act σ ε Unit :=
  changeWorld fun world => { world with tree }

/-- An event is added to the log. -/
def note (level : Level) (area : Area) (message : Text) (fields : List (Text × Text) := []) :
    Act σ ε Unit :=
  changeWorld fun world => world.note level area message fields

/-- Bytes are written to standard output. -/
def print (bytes : Bytes) : Act σ ε Unit :=
  changeWorld fun world => world.print bytes

end Act
end IdlScout
