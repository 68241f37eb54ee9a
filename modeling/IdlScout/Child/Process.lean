import IdlScout.Child.Custody
import IdlScout.Child.Feed
import IdlScout.Child.Status
import IdlScout.Shell.Program

/-! A supervised child: its two streams of lines, its input, its end, and how these are
monitored. -/

namespace IdlScout

/-- Why a child could not be started, or did not end well. -/
inductive ProcessFault where
  | emptyCommand
  | launch (program : Text) (fault : LaunchFault)
  | failed (status : ExitStatus)
  /-- The end was told before. -/
  | alreadyTerminated
  | forwarding (fault : WriteFault)
  deriving Repr, DecidableEq

namespace ProcessFault

/-- The wording of a fault of the child with a number. -/
def message (number : Text) : ProcessFault → Text
  | .emptyCommand => "Empty command line".toList
  | .launch program _ => "Failed to start ".toList ++ program
  | .failed status =>
    "Process ".toList ++ number ++ " failed (".toList ++ status.message ++ [')']
  | .alreadyTerminated => "Process already terminated".toList
  | .forwarding _ => "Failed to forward input to process ".toList ++ number

/-- The number that a failed child ended with. -/
def exitCode? : ProcessFault → Option Int
  | .failed status => some status.code
  | _ => none

end ProcessFault

/-- A child as its parent sees it. -/
structure ChildProcess where
  /-- Lines of standard output and of standard error. -/
  output : Mux
  feed : Feed
  custody : Custody := {}
  /-- How the child ended, once it did. -/
  status : Option ExitStatus := none
  deriving Repr, DecidableEq

/-- What a monitor shows next. -/
inductive Glimpse where
  | round (round : Round)
  | fault (fault : ProcessFault)
  /-- There is nothing more to show. -/
  | over
  /-- The child has to go on first. -/
  | waiting
  deriving Repr, DecidableEq

/-- A monitor of a child; it shows rounds of lines and then, once, what was wrong with the end. -/
structure Monitor where
  process : ChildProcess
  done : Bool := false
  deriving Repr, DecidableEq

namespace ChildProcess

/-- The source of lines that a child writes to a stream. -/
def outputLane (id : String) : Lane :=
  { id := id.toList, ahead := [], held := true }

/-- A child at its start, with the lines of standard input if they are forwarded. -/
def begin (forwarded : Option (List Text)) (timed : Bool) : ChildProcess :=
  { output := Mux.ofLanes [outputLane "stdout", outputLane "stderr"] timed
    feed := Feed.begin forwarded timed }

/-- A line for the child's input, or the end of the lines. -/
def pipe (process : ChildProcess) (message : Option Text) : ChildProcess :=
  { process with feed := process.feed.hand message }

/-- A request to stop: the input is closed, the child is interrupted, and what comes from it is not
awaited. Further requests do nothing. -/
def stop (process : ChildProcess) : ChildProcess :=
  -- A second request finds everything done.
  if process.custody.stopRequested then process
  else
    { process with
      custody := process.custody.stop, feed := process.feed.halt, output := process.output.stop }

/-- A monitor; only the first one is given the lines. -/
def monitor (process : ChildProcess) : Monitor :=
  { process := { process with output := process.output.handOut } }

/-- What is wrong with an end: that of the child first, then that of the forwarding. -/
def endFault? (status : ExitStatus) (forwarded : Except WriteFault Unit) : Option ProcessFault :=
  -- A child that failed explains why its input could not be forwarded.
  if status.isClean then
    match forwarded with
    | .ok () => none
    | .error fault => some (.forwarding fault)
  else some (.failed status)

/-- The child's end is collected, which is possible once. -/
def collect (process : ChildProcess) : Glimpse × ChildProcess :=
  if process.custody.collected then (.fault .alreadyTerminated, process)
  else
    match process.status with
    | none => (.waiting, process)
    | some status =>
      -- The forwarder is told that no lines follow, and is awaited before the end is judged.
      let feed := ((process.feed.move? .childEnds).getD process.feed).hand none |>.forward
      let ended := { process with custody := process.custody.finish, feed }
      match endFault? status feed.outcome with
      | some fault => (.fault fault, ended)
      | none => (.over, ended)

end ChildProcess

namespace Monitor

/-- The monitor shows what comes next. -/
def next (monitor : Monitor) : Glimpse × Monitor :=
  if monitor.done then (.over, monitor)
  else
    let output := monitor.process.output.next
    let process := { monitor.process with output }
    match output.rounds[monitor.process.output.rounds.length]? with
    | some round => (.round round, { monitor with process })
    | none =>
      -- The end is collected only after the last line was shown.
      if output.consumer = .finished then
        match process.collect with
        | (.waiting, process) => (.waiting, { monitor with process })
        | (glimpse, process) => (glimpse, { process, done := true })
      else (.waiting, { monitor with process })

/-- A monitor that is given up before its end stops the child. -/
def giveUp (monitor : Monitor) : ChildProcess :=
  if monitor.done then monitor.process
  else { monitor.process.stop with output := monitor.process.stop.output.giveUp }

end Monitor
end IdlScout
