import IdlScout.Child.Kind
import IdlScout.Discovery.Executable
import IdlScout.Discovery.MessageFile
import IdlScout.Session.Basic
import IdlScout.Session.ChildCommand

/-! A run of a session: captured files are replayed, then a child is started and its sections are
handled until it ends. -/

namespace IdlScout

/-- What a run takes from its surroundings, for children of a kind. -/
structure Surroundings (κ : Type := LiveChild) where
  /-- The variables that programs are started with. -/
  environment : List (Text × Text) := []
  /-- What comes on standard input. -/
  input : Bytes := []
  /-- What happens when the child waits: events to be logged if a stop is requested then. -/
  stopWhen : κ → World → Option (List LogEvent) := fun _ _ => none

namespace Session

variable {ρ κ : Type} [ChildKind κ]

/-- Events that tell of message files. -/
def noteMessages : List (Text × Text) → Step ρ Unit
  | [] => pure ()
  | (path, type) :: rest => do
    Act.note .debug .discovery "found".toList
      [("path".toList, path), ("type_name".toList, type)]
    noteMessages rest

/-- The types that message files name. -/
def scan : Step ρ (List Text) := do
  let found := (← Act.world).tree.scanMessages (← Act.own).settings.directories
  noteMessages found
  return found.map Prod.snd

/-- The child's program: the one of the settings, or the first that is found. -/
def findProgram (libraryPath : Option Text) : Step ρ RawPath := do
  match (← Act.own).settings.executablePath with
  -- A program that is given is not looked at before it is started.
  | some path => return path
  | none =>
    let tree := (← Act.world).tree
    Act.note .debug .discovery "executable search path".toList
      [("roots".toList, Quoted.encodeList (tree.executableRoots libraryPath))]
    match tree.findExecutable? libraryPath with
    | some path =>
      Act.note .debug .discovery "found executable".toList [("path".toList, path)]
      return RawPath.ofText path
    | none => throw .noExecutable

/-- The number that a session knows its child by. -/
def childNumber : Nat := 0

/-- The child is stopped if the context asked for it. -/
def obey (live : κ) : Step ρ κ := do
  if (← Act.own).context.hasStopped childNumber then return ChildKind.change live (·.stop)
  else return live

/-- Events are logged. -/
def noteAll : List LogEvent → Step ρ Unit
  | [] => pure ()
  | event :: rest => do
    Act.note event.level event.area event.message event.fields
    noteAll rest

/-- The child goes on, in the files as they are now; a stop may be requested before. -/
def goOn (around : Surroundings κ) (live : κ) : Step ρ κ := do
  -- Nobody asks for a stop twice, or while the program has not run up to its first wait.
  if ChildKind.isWaiting live && !(← Act.own).context.stopped then
    match around.stopWhen live (← Act.world) with
    | some events =>
      noteAll events
      requestStop
    | none => pure ()
  let live ← obey live
  let (live, tree) := ChildKind.go live (← Act.world).tree
  Act.setTree tree
  return live

/-- A child that is given up is stopped and ends. -/
def giveUp (live : κ) (done : Bool) : Step ρ Unit := do
  let stopped := ChildKind.change live fun process => Monitor.giveUp { process, done }
  Act.setTree (ChildKind.windUp stopped (← Act.world).tree)

/-- What the monitor of the child shows is consumed as it comes; the number bounds what it shows
and how often the child waits. -/
def follow (react : Receiver ρ) (around : Surroundings κ) :
    Nat → κ → Bool → Decoder → Step ρ Unit
  | 0, _, _, _ => pure ()
  | fuel + 1, live, done, decoder => do
    match ChildKind.glance live done with
    | (.round round, live, done) =>
      let decoder ← tryCatch (consume react decoder round) fun fault => do
        giveUp live done
        throw fault
      follow react around fuel (← obey live) done decoder
    | (.waiting, live, done) => follow react around fuel (← goOn around live) done decoder
    | (.fault fault, _, _) => throw (.process fault)
    | (.over, _, _) => pure ()

/-- The names that were found are handed to the child, and the end of them. -/
def handNames (names : List Text) (process : ChildProcess) : ChildProcess :=
  (names.foldl (fun process name => process.pipe (some name)) process).pipe none

/-- The child is started with its command line. -/
def launch (around : Surroundings κ) (command : List Text) (readsInput : Bool) : Step ρ κ := do
  let forwarded := if readsInput then some (LineSource.linesOfBytes around.input) else none
  let timed := (← Act.own).settings.waitTimeout.isSome
  let tree := (← Act.world).tree
  match ChildKind.launch tree around.environment command forwarded timed with
  | .error fault => throw (.process fault)
  | .ok live => return live

/-- The context forgets the child. -/
def forget : Step ρ Unit :=
  Act.change fun session => { session with context := session.context.clear }

/-- The child runs from its start to its end. -/
def runChild (react : Receiver ρ) (around : Surroundings κ) (names : List Text) :
    Step ρ Unit := do
  let settings := (← Act.own).settings
  let program ← findProgram (around.environment.lookup libraryPathVariable)
  let readsInput := settings.readsStandardInput
  let command := settings.childCommand program (readsInput || !names.isEmpty)
  Act.note .info .session ("scraper command: ".toList ++ Text.join [' '] command)
  let live ← launch around command readsInput
  Act.change fun session => { session with context := session.context.register childNumber }
  -- A stop that came before the child was registered takes effect here.
  let live ← obey (ChildKind.change live (handNames names))
  let watched := ChildKind.change live fun process => process.monitor.process
  -- The child is forgotten however the run ends, so that no later stop reaches it.
  tryCatch (follow react around (ChildKind.patience κ) watched false {}) fun fault => do
    forget
    throw fault
  forget

/-- Whether there is anything for a child to do. -/
def hasWork (settings : Settings) (names : List Text) : Bool :=
  !(settings.domains.isEmpty && settings.inputs.isEmpty && names.isEmpty)

/-- Captured files are replayed, then the child runs if there is anything to do. -/
def run (react : Receiver ρ) (around : Surroundings κ) : Step ρ Unit := do
  replay react {} (← Act.own).settings.captured
  let names ← scan
  if !hasWork (← Act.own).settings names then
    Act.note .info .session "nothing to scrape".toList
  -- After a stop no child is started.
  else if (← Act.own).context.stopped then pure ()
  else runChild react around names

end Session
end IdlScout
