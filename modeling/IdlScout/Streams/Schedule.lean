import IdlScout.Streams.Mux

/-! One order of moves among the possible ones: readers go as far as they can before the consumer
moves. It decides which lines share a round, and nothing else. -/

namespace IdlScout
namespace Mux

/-- A reader goes on until it waits or is gone. -/
def runReader (source : Nat) : Nat → Mux → Mux
  | 0, mux => mux
  | fuel + 1, mux =>
    match mux.move? (.reader source) with
    | some next => runReader source fuel next
    | none => mux

/-- A reader takes three actions for a line, and two to go. -/
def readerFuel (lane : Lane) : Nat :=
  3 * lane.ahead.length + 3

/-- All readers go on until they wait or are gone. -/
def runReaders (mux : Mux) : Mux :=
  mux.lanes.zipIdx.foldl (fun mux (lane, source) => runReader source (readerFuel lane) mux) mux

/-- The consumer's only possible action, if it does not wait. -/
def consumerMove? (mux : Mux) : Option Move :=
  match mux.consumer with
  | .resting => some .ask
  | .checking => some .check
  | .waiting => if mux.wake || mux.lanes.any Lane.isReady then some .wakeUp else none
  | .woken => some .recheck
  | .draining slots => some (if slots.length < mux.lanes.length then .take else .settle)
  | .joining => some .join
  | .finished => none

/-- The consumer goes on until it has a round more, has been told there are none, or waits. -/
def runConsumer : Nat → Mux → Mux
  | 0, mux => mux
  | fuel + 1, mux =>
    match mux.consumerMove? with
    | none => mux
    | some step =>
      match mux.move? step with
      | none => mux
      | some next =>
        -- One more round is what was asked for, so the consumer rests.
        if next.rounds.length > mux.rounds.length then next else runConsumer fuel next

/-- A look at all queues takes one action for each and four more, and only queues that ended since
the last look make another one necessary. -/
def consumerFuel (mux : Mux) : Nat :=
  (mux.lanes.length + 2) * (mux.lanes.length + 5)

/-- The consumer asks for a round; it gets one, is told there are none, or waits. -/
def next (mux : Mux) : Mux :=
  let mux := mux.runReaders
  runConsumer mux.consumerFuel mux

/-- The consumer asks for rounds up to a number. -/
def readUpTo : Nat → Mux → Mux
  | 0, mux => mux
  | count + 1, mux =>
    let after := mux.next
    if after.rounds.length > mux.rounds.length then readUpTo count after else after

/-- The lines that are left bound the rounds. -/
def lineCount (mux : Mux) : Nat :=
  mux.lanes.foldl (fun count lane => count + (lane.ahead.length + lane.queue.length + 1)) 0

/-- The consumer asks for rounds until there are none or it waits. -/
def readAll (mux : Mux) : Mux :=
  readUpTo (mux.lineCount + 1) mux

/-- A stop request, up to its return. -/
def stop (mux : Mux) : Mux :=
  (mux.moves? [.requestStop, .leaveWake]).getD mux.stopRequested

/-- A consumer that is not done gives up, and the readers go. -/
def giveUp (mux : Mux) : Mux :=
  match mux.move? .drop with
  | some dropped =>
    let left := dropped.runReaders
    (left.move? .join).getD left
  | none => mux

/-- All sources end after their lines. -/
def release (mux : Mux) : Mux :=
  { mux with lanes := mux.lanes.map fun lane => { lane with held := false } }

end Mux
end IdlScout
