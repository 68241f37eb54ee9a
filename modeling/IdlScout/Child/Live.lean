import IdlScout.Child.Process
import IdlScout.Shell.Machine
import IdlScout.Streams.LineSource

/-! A supervised child together with the program that runs in it. -/

namespace IdlScout

/-- Fresh lines come to a source, which ends with the program that writes them. -/
def Lane.supply (ended : Bool) (fresh : List Text) (lane : Lane) : Lane :=
  { lane with ahead := lane.ahead ++ fresh, held := lane.held && !ended }

/-- A child and its program; how much of the input was given to the program, and how many lines of
its two streams were passed on. -/
structure LiveChild where
  process : ChildProcess
  program : Shell.State
  given : Nat := 0
  passed : List Nat := [0, 0]
  /-- The interruption has reached the program. -/
  interrupted : Bool := false
  deriving Repr

namespace LiveChild

/-- The null character stands in no command. -/
def isPlain (command : List Text) : Bool :=
  command.all fun word => !word.contains (Char.ofNat 0)

/-- A command line is started with some variables; lines of standard input may be forwarded to
it. -/
def launch (tree : FileTree) (environment : List (Text × Text)) (command : List Text)
    (forwarded : Option (List Text)) (timed : Bool) : Except ProcessFault LiveChild :=
  match command with
  | [] => .error .emptyCommand
  | name :: arguments =>
    if !isPlain command then .error (.launch name (.path .unusable))
    else
      match Shell.program tree name arguments with
      | .error fault => .error (.launch name fault)
      | .ok program =>
        .ok { process := ChildProcess.begin forwarded timed
              program := Shell.State.launch tree environment program [] true }

/-- The lines of what a program wrote: while it runs, only those that have ended. -/
def linesSoFar (ended : Bool) (content : Bytes) : List Text :=
  if ended then LineSource.linesOfBytes content else (LineSource.feed [] content).1

/-- What the program wrote is passed on. -/
def passOn (live : LiveChild) : LiveChild :=
  -- The end of the program ends its last line too.
  let ended := live.program.ending.isSome
  let streams := [live.program.written, live.program.complaints].map (linesSoFar ended)
  let fresh := (streams.zip live.passed).map fun (lines, count) => lines.drop count
  let lanes := (live.process.output.lanes.zip fresh).map fun (lane, lines) =>
    Lane.supply ended lines lane
  { live with
    passed := streams.map List.length
    process := { live.process with
      output := { live.process.output with lanes }
      status := live.program.ending } }

/-- What was forwarded reaches the program. -/
def giveInput (live : LiveChild) : LiveChild :=
  let feed := live.process.feed.forward
  { live with
    given := feed.written.length
    process := { live.process with feed }
    program := { live.program with
      input := live.program.input ++ feed.written.drop live.given
      inputOpen := feed.isOpen } }

/-- A program that waits is interrupted if that is due; otherwise what it waits for comes. -/
def endPause (live : LiveChild) : LiveChild :=
  if live.program.pause.isNone then live
  -- An interruption reaches the program once, at its first wait after it was sent.
  else if live.interrupted || live.process.custody.sent.isEmpty then
    { live with program := live.program.wake }
  else
    { live with program := (live.program.signal Signal.interrupt).wake, interrupted := true }

/-- The program goes on to its next wait, or to its end. -/
def go (live : LiveChild) : LiveChild :=
  let ready := live.giveInput.endPause
  passOn { ready with program := ready.program.run }

/-- A change of the child as its parent sees it. -/
def change (live : LiveChild) (f : ChildProcess → ChildProcess) : LiveChild :=
  { live with process := f live.process }

/-- What a monitor of the child shows next; the flag says that it has shown all. -/
def glance (live : LiveChild) (done : Bool) : Glimpse × LiveChild × Bool :=
  let (glimpse, monitor) := Monitor.next { process := live.process, done }
  (glimpse, { live with process := monitor.process }, monitor.done)

/-- The most waits of a program. -/
def pauseLimit : Nat := 10000

/-- The child goes on until its monitor shows something. -/
def showNext : Nat → LiveChild → Bool → Glimpse × LiveChild × Bool
  | 0, live, done => (.waiting, live, done)
  | fuel + 1, live, done =>
    match live.glance done with
    -- Nothing can be shown before the program goes on.
    | (.waiting, live, done) => showNext fuel live.go done
    | shown => shown

/-- What a monitor showed: rounds, then a fault or none. -/
structure Shown where
  rounds : List Round := []
  fault : Option ProcessFault := none
  deriving Repr

/-- A monitor shows rounds up to a number; given up before its end, it stops the child. -/
def watchFor (limit : Option Nat) : Nat → LiveChild → Bool → Shown × LiveChild
  | 0, live, _ => ({}, live)
  | fuel + 1, live, done =>
    -- Giving up is an action of its own, after the rounds that were asked for.
    if limit = some 0 then
      ({}, live.change fun process => Monitor.giveUp { process, done })
    else
      match showNext pauseLimit live done with
      | (.round round, live, done) =>
        let (shown, live) := watchFor (limit.map (· - 1)) fuel live done
        ({ shown with rounds := round :: shown.rounds }, live)
      | (.fault fault, live, _) => ({ fault := some fault }, live)
      | (_, live, _) => ({}, live)

/-- The most rounds of a monitor. -/
def roundLimit : Nat := 1000000

/-- A new monitor shows all it has, or rounds up to a number. -/
def watch (live : LiveChild) (limit : Option Nat) : Shown × LiveChild :=
  watchFor limit roundLimit (live.change fun process => process.monitor.process) false

/-- A program that was interrupted goes on until it has ended. -/
def windUpFor : Nat → LiveChild → LiveChild
  | 0, live => live
  | fuel + 1, live => if live.process.status.isSome then live else windUpFor fuel live.go

/-- A program that was interrupted goes on until it has ended. -/
def windUp (live : LiveChild) : LiveChild :=
  windUpFor pauseLimit live

end LiveChild
end IdlScout
