import IdlScout.Streams.Round

/-! Several sources of lines merged into rounds. Each source has a reader that queues its lines;
one consumer takes them, and stop requests may come at any moment. Every action of every party is
a move of its own, so that all their interleavings are runs of moves. -/

namespace IdlScout

/-- Where the reader of a source stands. -/
inductive ReaderPlace where
  /-- It was not started. -/
  | unborn
  /-- It is about to see whether a stop was requested. -/
  | checking
  /-- It waits for the next line of its source. -/
  | reading
  /-- It has a line to queue. -/
  | sending (line : Text)
  /-- It is gone, and its queue gets no further lines. -/
  | done
  deriving Repr, DecidableEq

/-- A source with its reader and its queue. -/
structure Lane where
  id : Text
  /-- The lines that the source has yet to give. -/
  ahead : List Text
  /-- The source does not end after its lines. -/
  held : Bool := false
  reader : ReaderPlace := .unborn
  queue : List Text := []
  /-- The consumer still takes lines from the queue. -/
  live : Bool := true
  deriving Repr, DecidableEq

/-- Where the consumer stands. -/
inductive ConsumerPlace where
  /-- It has not asked for a round, or was given the last one. -/
  | resting
  /-- It is about to see whether anything can come at all. -/
  | checking
  /-- It waits until a queue is ready or a stop wakes it. -/
  | waiting
  /-- It woke up and is about to see whether a stop was requested. -/
  | woken
  /-- It takes lines, one queue after the other. -/
  | draining (slots : List (Option Text))
  /-- It waits for the readers to go. -/
  | joining
  /-- It was told that there are no more rounds. -/
  | finished
  deriving Repr, DecidableEq

/-- Sources, consumer and stop requests. -/
structure Mux where
  lanes : List Lane
  /-- Waits may end with nothing ready. -/
  timed : Bool := false
  /-- No stop was requested. -/
  active : Bool := true
  /-- Stop requests that have yet to leave their wake-up. -/
  wakesDue : Nat := 0
  /-- A wake-up is there, and stays. -/
  wake : Bool := false
  /-- The queues are gone. -/
  closed : Bool := false
  /-- The consumer gave up before the last round. -/
  dropped : Bool := false
  /-- A consumer was given the queues. -/
  handedOut : Bool := false
  consumer : ConsumerPlace := .resting
  /-- The rounds that the consumer was given. -/
  rounds : List Round := []
  deriving Repr, DecidableEq

/-- One atomic action of one party. -/
inductive Move where
  | start
  | reader (source : Nat)
  | ask
  | check
  | wakeUp
  | timeOut
  | recheck
  | take
  | settle
  | join
  | drop
  | requestStop
  | leaveWake
  deriving Repr, DecidableEq

namespace Lane

/-- The lane once its reader runs. -/
def started (lane : Lane) : Lane :=
  if lane.reader = .unborn then { lane with reader := .checking } else lane

/-- A lane has a line, or will have no more, so that taking from it does not wait. -/
def isReady (lane : Lane) : Bool :=
  lane.live && (!lane.queue.isEmpty || lane.reader == .done)

/-- One action of the reader; it waits while its source is held. -/
def readerStep? (lane : Lane) (active closed : Bool) : Option Lane :=
  match lane.reader with
  | .unborn | .done => none
  -- A stop is seen between two lines, never while the source is awaited.
  | .checking => some { lane with reader := if active then .reading else .done }
  | .reading =>
    match lane.ahead with
    | line :: rest => some { lane with reader := .sending line, ahead := rest }
    -- A held source neither gives a line nor ends, so the reader cannot move.
    | [] => if lane.held then none else some { lane with reader := .done }
  | .sending line =>
    -- A line that finds no queue is lost, and shows the reader that nobody listens.
    if closed then some { lane with reader := .done }
    else some { lane with reader := .checking, queue := lane.queue ++ [line] }

/-- What the consumer takes from a lane: a line, or the news that no more will come. -/
def taken (lane : Lane) : Option Text × Lane :=
  if !lane.live then (none, lane)
  else
    match lane.queue with
    | line :: rest => (some line, { lane with queue := rest })
    -- An empty queue is given up once its reader is gone; else a line may still come.
    | [] => (none, { lane with live := lane.reader != .done })

/-- The lane without its queue. -/
def cleared (lane : Lane) : Lane :=
  { lane with queue := [] }

end Lane

namespace Mux

/-- The queues are dropped, and the readers awaited. -/
def close (mux : Mux) : Mux :=
  { mux with closed := true, lanes := mux.lanes.map Lane.cleared, consumer := .joining }

/-- The first of any number of stop requests ends the activity. -/
def stopRequested (mux : Mux) : Mux :=
  if mux.active then { mux with active := false, wakesDue := mux.wakesDue + 1 } else mux

/-- The state after an action, if the action is possible. -/
def move? (mux : Mux) : Move → Option Mux
  | .start => some { mux with lanes := mux.lanes.map Lane.started }
  | .reader source => do
    let lane ← mux.lanes[source]?
    let next ← lane.readerStep? mux.active mux.closed
    return { mux with lanes := mux.lanes.set source next }
  | .ask => if mux.consumer = .resting then some { mux with consumer := .checking } else none
  | .check =>
    if mux.consumer ≠ .checking then none
    -- Without a live queue nothing can come, and after a stop nothing is wanted.
    else if mux.active && mux.lanes.any Lane.live then some { mux with consumer := .waiting }
    else some mux.close
  | .wakeUp =>
    if mux.consumer = .waiting && (mux.wake || mux.lanes.any Lane.isReady) then
      some { mux with consumer := .woken }
    else none
  | .timeOut =>
    if mux.consumer = .waiting && mux.timed then some { mux with consumer := .checking } else none
  | .recheck =>
    if mux.consumer ≠ .woken then none
    -- A stop that came during the wait wins over the lines that are ready.
    else if mux.active then some { mux with consumer := .draining [] } else some mux.close
  | .take =>
    match mux.consumer with
    | .draining slots =>
      -- The slots filled so far tell which queue is next.
      match mux.lanes[slots.length]? with
      | some lane =>
        let (slot, next) := lane.taken
        some { mux with
          lanes := mux.lanes.set slots.length next
          consumer := .draining (slots ++ [slot]) }
      | none => none
    | _ => none
  | .settle =>
    match mux.consumer with
    | .draining slots =>
      if slots.length ≠ mux.lanes.length then none
      -- Queues may be found ended and empty, which makes no round.
      else if slots.any Option.isSome then
        some { mux with consumer := .resting, rounds := mux.rounds ++ [⟨slots⟩] }
      else some { mux with consumer := .checking }
    | _ => none
  | .join =>
    if mux.consumer = .joining && mux.lanes.all (·.reader == .done) then
      some { mux with consumer := .finished }
    else none
  | .drop =>
    if mux.consumer = .resting then some { mux.stopRequested.close with dropped := true } else none
  -- The stop is seen before its wake-up is left, and another party may move in between.
  | .requestStop => some mux.stopRequested
  | .leaveWake =>
    match mux.wakesDue with
    | 0 => none
    | due + 1 => some { mux with wakesDue := due, wake := true }

/-- The state after several actions. -/
def moves? (mux : Mux) (moves : List Move) : Option Mux :=
  moves.foldlM move? mux

/-- The first consumer is given the queues, and every later one none. -/
def handOut (mux : Mux) : Mux :=
  -- The queues move to the consumer that is given them, and none is left for another.
  if mux.handedOut then { mux with lanes := [], closed := false, consumer := .resting }
  else { mux with lanes := mux.lanes.map Lane.started, handedOut := true }

/-- Sources before anything was done. -/
def ofLanes (lanes : List Lane) (timed : Bool) : Mux :=
  { lanes, timed }

end Mux
end IdlScout
