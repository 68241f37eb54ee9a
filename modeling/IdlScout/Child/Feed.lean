import IdlScout.Child.Writer
import IdlScout.Streams.Schedule

/-! What is forwarded to a child's standard input. A forwarder takes rounds of lines and writes
them, one line at a time; while it writes a line, nobody else can close the input. Every action of
every party is a move of its own. -/

namespace IdlScout

/-- Where the forwarder stands. -/
inductive FeedPlace where
  /-- It waits for a round of lines. -/
  | asking
  /-- It has lines to write. -/
  | holding (lines : List Text)
  /-- It writes a line and keeps the input to itself until that is done. -/
  | writing (left : Bytes) (lines : List Text)
  /-- It is about to close the input. -/
  | closing (fault : Option WriteFault)
  | done (fault : Option WriteFault)
  deriving Repr, DecidableEq

/-- How far the stop request has come that was the first. -/
inductive FeedStop where
  | none
  /-- The request was noted. -/
  | asked
  /-- The input was closed. -/
  | closed
  /-- The end of the lines was handed in. -/
  | marked
  /-- The sources were told to end. -/
  | told
  deriving Repr, DecidableEq

/-- The sources of lines, the child's input, and the parties at work. -/
structure Feed where
  /-- Lines that are handed in come first, then those of standard input if they are forwarded. -/
  source : Mux
  /-- The rounds that the forwarder took. -/
  taken : Nat := 0
  /-- The input is open. -/
  isOpen : Bool := true
  /-- The child ended, so that nobody reads. -/
  gone : Bool := false
  place : FeedPlace := .asking
  stop : FeedStop := .none
  /-- The bytes that the child was given. -/
  written : Bytes := []
  deriving Repr, DecidableEq

/-- One atomic action of one party. -/
inductive FeedMove where
  /-- A line is handed in, or the end of the lines. -/
  | pipe (message : Option Text)
  | source (move : Move)
  /-- The forwarder takes a round. -/
  | collect
  /-- The forwarder is told that there are no more rounds. -/
  | exhaust
  /-- The forwarder turns to the next line. -/
  | turn
  /-- The child's input takes some bytes. -/
  | accept (count : Nat)
  /-- Writing, or passing on what was written, fails. -/
  | refuse (fault : WriteFault)
  | endLine
  | close
  | childEnds
  | requestStop
  | closeInput
  /-- The request hands in the end of the lines. -/
  | markEnd
  | tellSources
  deriving Repr, DecidableEq

namespace Lane

/-- A line is handed in at the end of a source, or the end itself. After that nothing is. -/
def hand (lane : Lane) (message : Option Text) : Lane :=
  -- A source that has ended takes no more lines.
  if !lane.held then lane
  else
    match message with
    | some line => { lane with ahead := lane.ahead ++ [line] }
    | none => { lane with held := false }

end Lane

namespace Feed

/-- The source of lines that are handed in. -/
def handedLane : Lane :=
  { id := "stdin-pipe".toList, ahead := [], held := true }

/-- The source of lines that come from standard input. -/
def inputLane (lines : List Text) : Lane :=
  { id := "stdin".toList, ahead := lines }

/-- A feed at its start, with the lines of standard input if they are forwarded. -/
def begin (forwarded : Option (List Text)) (timed : Bool) : Feed :=
  { source := (Mux.ofLanes (handedLane :: (forwarded.map inputLane).toList) timed).handOut }

/-- A message to the source of lines that are handed in. -/
def hand (feed : Feed) (message : Option Text) : Feed :=
  { feed with source := { feed.source with
      lanes := feed.source.lanes.modifyHead fun lane => lane.hand message } }

/-- The lines of a round, in the order of their sources. -/
def roundLines (round : Round) : List Text :=
  round.slots.filterMap id

/-- The bytes of a line with its end. -/
def lineBytes (line : Text) : Bytes :=
  Utf8.encode line ++ [10]

/-- Whether the forwarder keeps the input to itself. -/
def isLocked (feed : Feed) : Bool :=
  match feed.place with
  | .writing _ _ => true
  | _ => false

/-- A fault that only says that nobody reads is none. -/
def loud (fault : Option WriteFault) : Option WriteFault :=
  fault.filter fun fault => !fault.isQuiet

/-- The state after an action, if the action is possible. -/
def move? (feed : Feed) : FeedMove → Option Feed
  | .pipe message => some (feed.hand message)
  | .source move => do
    -- The sources are stopped through the feed alone, which closes the input first.
    if move matches .requestStop | .drop then none
    let source ← feed.source.move? move
    return { feed with source }
  | .collect =>
    match feed.place, feed.source.rounds[feed.taken]? with
    | .asking, some round =>
      some { feed with place := .holding (roundLines round), taken := feed.taken + 1 }
    | _, _ => none
  | .exhaust =>
    if feed.place = .asking && feed.taken = feed.source.rounds.length &&
        feed.source.consumer = .finished then some { feed with place := .closing none }
    else none
  | .turn =>
    match feed.place with
    | .holding [] => some { feed with place := .asking }
    | .holding (line :: rest) =>
      if line.isEmpty then some { feed with place := .holding rest }
      -- The input is looked at anew for every line, so a stop takes effect between two lines.
      else if feed.isOpen then some { feed with place := .writing (lineBytes line) rest }
      else some { feed with place := .closing none }
    | _ => none
  | .accept count =>
    match feed.place with
    | .writing left rest =>
      -- A pipe takes part of a line if it is full, but never nothing.
      if feed.gone || count = 0 || left.length < count then none
      else some { feed with
        place := .writing (left.drop count) rest
        written := feed.written ++ left.take count }
    | _ => none
  | .refuse fault =>
    match feed.place with
    | .writing _ _ => some { feed with place := .closing (some fault) }
    | _ => none
  | .endLine =>
    match feed.place with
    | .writing [] rest => some { feed with place := .holding rest }
    | _ => none
  | .close =>
    match feed.place with
    | .closing fault => some { feed with place := .done (loud fault), isOpen := false }
    | _ => none
  | .childEnds => some { feed with gone := true }
  -- Only the first request goes on to close the input.
  | .requestStop => if feed.stop = .none then some { feed with stop := .asked } else some feed
  | .closeInput =>
    -- The input cannot be closed under a line that is being written.
    if feed.stop = .asked && !feed.isLocked then
      some { feed with stop := .closed, isOpen := false }
    else none
  | .markEnd =>
    if feed.stop = .closed then some { feed.hand none with stop := .marked } else none
  | .tellSources =>
    if feed.stop = .marked then
      some { feed with stop := .told, source := feed.source.stopRequested }
    else none

/-- The state after several actions. -/
def moves? (feed : Feed) (moves : List FeedMove) : Option Feed :=
  moves.foldlM move? feed

/-- The sources are asked for a round when the forwarder waits for one. -/
def ask (feed : Feed) : Feed :=
  { feed with source := feed.source.next }

/-- The forwarder's next action when nothing fails before the child ends. -/
def nextMove? (feed : Feed) : Option FeedMove :=
  match feed.place with
  | .asking =>
    if feed.taken < feed.source.rounds.length then some .collect
    else if feed.source.consumer = .finished then some .exhaust
    else none
  | .holding _ => some .turn
  | .writing [] _ => some .endLine
  | .writing left _ =>
    -- Nobody reads what a child that ended is sent.
    if feed.gone then some (.refuse { kind := .brokenPipe, code := some WriteFault.pipeCode })
    else some (.accept left.length)
  | .closing _ => some .close
  | .done _ => none

/-- The forwarder goes on until it waits or is done. -/
def forwardFor : Nat → Feed → Feed
  | 0, feed => feed
  | fuel + 1, feed =>
    let feed := if feed.place = .asking then feed.ask else feed
    match feed.nextMove? with
    | none => feed
    | some move =>
      match feed.move? move with
      | some next => forwardFor fuel next
      | none => feed

/-- A line takes three actions, and a round two more. -/
def forward (feed : Feed) : Feed :=
  forwardFor (6 * (feed.source.lineCount + 2)) feed

/-- A stop request, up to its return, between two lines. -/
def halt (feed : Feed) : Feed :=
  (feed.moves? [.requestStop, .closeInput, .markEnd, .tellSources, .source .leaveWake]).getD feed

/-- How forwarding ended. -/
def outcome (feed : Feed) : Except WriteFault Unit :=
  match feed.place with
  | .done (some fault) => .error fault
  | _ => .ok ()

end Feed
end IdlScout
