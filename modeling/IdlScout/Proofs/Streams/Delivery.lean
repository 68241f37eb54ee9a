import IdlScout.Proofs.Streams.Step

/-! Every line of a source reaches the consumer once and in order, or is still on its way. -/

namespace IdlScout

/-- A source of lines before anything was done. -/
structure Source where
  id : Text
  lines : List Text
  /-- The source does not end after its lines. -/
  held : Bool := false
  deriving Repr, DecidableEq

/-- The lane of a source whose reader was not started. -/
def Lane.ofSource (source : Source) : Lane :=
  { id := source.id, ahead := source.lines, held := source.held }

/-- A multiplexer of sources in the order of their registration. -/
def Mux.ofSources (sources : List Source) (timed : Bool) : Mux :=
  Mux.ofLanes (sources.map Lane.ofSource) timed

/-- The line that a reader has in its hands. -/
def ReaderPlace.carried : ReaderPlace → List Text
  | .sending line => [line]
  | _ => []

/-- The lines of a lane that the consumer did not take, the next one first. -/
def Lane.undelivered (lane : Lane) : List Text :=
  lane.queue ++ lane.reader.carried ++ lane.ahead

/-- The line of a source in the round that is being assembled, if it has one there. -/
def ConsumerPlace.slotOf (source : Nat) : ConsumerPlace → List Text
  | .draining slots => (slots[source]?.join).toList
  | _ => []

/-- The lines of a source that the consumer took, in rounds and in the one being assembled. -/
def Mux.delivered (mux : Mux) (source : Nat) : List Text :=
  Round.linesOf source mux.rounds ++ mux.consumer.slotOf source

/-- Where the lines of a source are, given those that the consumer took. -/
structure Lane.Accounts (active closed : Bool) (delivered lines : List Text) (lane : Lane) :
    Prop where
  /-- While the queues exist, nothing is lost. -/
  kept : closed = false → delivered ++ lane.undelivered = lines
  /-- Dropped queues lose only the end of the lines. -/
  cleared : closed = true → lane.queue = [] ∧ delivered <+: lines
  /-- Unless a stop was requested, a reader goes only at the end of its source. -/
  exhausted : active = true → lane.reader = .done → lane.ahead = []
  /-- A queue is given up only when it is drained and its reader is gone. -/
  retired : lane.live = false → lane.queue = [] ∧ lane.reader = .done
  /-- Unless a stop was requested, queues are dropped only after the last line. -/
  complete : active = true → closed = true → lane.reader = .done ∧ delivered = lines

namespace Lane.Accounts

variable {active closed : Bool} {delivered lines : List Text} {lane next : Lane}

/-- A new lane has all lines of its source ahead. -/
theorem ofSource (source : Source) :
    (Lane.ofSource source).Accounts true false [] source.lines where
  kept _ := by simp [Lane.ofSource, undelivered, ReaderPlace.carried]
  cleared closed := by simp at closed
  exhausted _ gone := by simp [Lane.ofSource] at gone
  retired dead := by simp [Lane.ofSource] at dead
  complete _ closed := by simp at closed

/-- Starting a reader moves no line. -/
theorem started (accounts : lane.Accounts active closed delivered lines) :
    lane.started.Accounts active closed delivered lines := by
  unfold Lane.started
  split
  · rename_i unborn
    -- A reader that was never started is not gone, so no condition speaks of the lane's end.
    refine ⟨fun isOpen => ?_, accounts.cleared, fun _ gone => by simp at gone, fun dead => ?_,
      fun isActive isClosed => ?_⟩
    · simpa [undelivered, ReaderPlace.carried, unborn] using accounts.kept isOpen
    · have gone := (accounts.retired dead).2
      simp [unborn] at gone
    · have gone := (accounts.complete isActive isClosed).1
      simp [unborn] at gone
  · exact accounts

/-- A reader that moves is not gone, so its queue was not given up. -/
theorem reader_ne_done (stepped : lane.readerStep? active closed = some next) :
    lane.reader ≠ .done := by
  intro gone
  simp [readerStep?, gone] at stepped

/-- A reader's action moves at most one line, and only one place on. -/
theorem readerStep (accounts : lane.Accounts active closed delivered lines)
    (stepped : lane.readerStep? active closed = some next) :
    next.Accounts active closed delivered lines := by
  have present := reader_ne_done stepped
  have live : lane.live ≠ false := fun dead => present (accounts.retired dead).2
  have unfinished : active = true → closed ≠ true := fun isActive isClosed =>
    present (accounts.complete isActive isClosed).1
  have balance := accounts.kept
  unfold Lane.readerStep? at stepped
  split at stepped
  · cases stepped
  · cases stepped
  · -- The look at the stop flag touches no line; only a stop makes the reader go here.
    rename_i place
    obtain rfl : _ = next := by simpa only [Option.some.injEq] using stepped
    refine ⟨fun isOpen => ?_, accounts.cleared, fun isActive gone => ?_,
      fun dead => absurd dead live, fun isActive isClosed => absurd isClosed (unfinished isActive)⟩
    · have same := balance isOpen
      simp only [undelivered, ReaderPlace.carried, place] at same ⊢
      cases active <;> simpa using same
    · simp [isActive] at gone
  · rename_i place
    split at stepped
    · -- The next line of the source is in the reader's hands.
      rename_i line rest front
      obtain rfl : _ = next := by simpa only [Option.some.injEq] using stepped
      refine ⟨fun isOpen => ?_, accounts.cleared, fun _ gone => by simp at gone,
        fun dead => absurd dead live,
        fun isActive isClosed => absurd isClosed (unfinished isActive)⟩
      simpa [undelivered, ReaderPlace.carried, place, front] using balance isOpen
    · -- A source that ends has nothing ahead.
      rename_i ended
      split at stepped
      · cases stepped
      · obtain rfl : _ = next := by simpa only [Option.some.injEq] using stepped
        refine ⟨fun isOpen => ?_, accounts.cleared, fun _ _ => ended,
          fun dead => absurd dead live,
          fun isActive isClosed => absurd isClosed (unfinished isActive)⟩
        simpa [undelivered, ReaderPlace.carried, place] using balance isOpen
  · rename_i line place
    split at stepped
    · -- A line without a queue is lost, which only happens after a stop.
      rename_i isClosed
      obtain rfl : _ = next := by simpa only [Option.some.injEq] using stepped
      exact ⟨fun isOpen => by simp [isClosed] at isOpen, accounts.cleared,
        fun isActive _ => absurd isClosed (unfinished isActive), fun dead => absurd dead live,
        fun isActive isClosed => absurd isClosed (unfinished isActive)⟩
    · -- The line goes from the reader's hands to the end of the queue.
      rename_i isOpen
      obtain rfl : _ = next := by simpa only [Option.some.injEq] using stepped
      refine ⟨fun isOpen => ?_, fun isClosed => absurd isClosed isOpen,
        fun _ gone => by simp at gone, fun dead => absurd dead live,
        fun isActive isClosed => absurd isClosed (unfinished isActive)⟩
      simpa [undelivered, ReaderPlace.carried, place] using balance isOpen

/-- What the consumer takes is the next line that was not delivered. -/
theorem taken (accounts : lane.Accounts active false delivered lines) :
    lane.taken.2.Accounts active false (delivered ++ lane.taken.1.toList) lines := by
  unfold Lane.taken
  split
  · simpa using accounts
  · rename_i notDead
    have live : lane.live ≠ false := by simpa using notDead
    split
    · -- The head of the queue is delivered.
      rename_i line rest front
      refine ⟨fun isOpen => ?_, fun isClosed => by simp at isClosed, accounts.exhausted,
        fun dead => absurd dead live, fun _ isClosed => by simp at isClosed⟩
      simpa [undelivered, front] using accounts.kept isOpen
    · -- An empty queue is given up when its reader is gone.
      rename_i empty
      refine ⟨fun isOpen => ?_, fun isClosed => by simp at isClosed, accounts.exhausted,
        fun dead => ⟨empty, by simpa using dead⟩, fun _ isClosed => by simp at isClosed⟩
      simpa [undelivered, empty] using accounts.kept isOpen

/-- Dropping a queue loses nothing that was taken, and nothing at all without a stop. -/
theorem clear (accounts : lane.Accounts active false delivered lines)
    (givenUp : active = true → lane.live = false) :
    lane.cleared.Accounts active true delivered lines where
  kept isOpen := by simp at isOpen
  cleared _ := ⟨rfl, ⟨_, accounts.kept rfl⟩⟩
  exhausted := accounts.exhausted
  retired dead := ⟨rfl, (accounts.retired dead).2⟩
  complete isActive _ := by
    -- A lane that was given up holds no line in any place.
    obtain ⟨empty, gone⟩ := accounts.retired (givenUp isActive)
    have noneAhead := accounts.exhausted isActive gone
    refine ⟨gone, ?_⟩
    simpa [undelivered, ReaderPlace.carried, empty, gone, noneAhead] using accounts.kept rfl

/-- After a stop less is promised. -/
theorem stop (accounts : lane.Accounts active closed delivered lines) :
    lane.Accounts false closed delivered lines :=
  ⟨accounts.kept, accounts.cleared, fun isActive => by simp at isActive, accounts.retired,
    fun isActive => by simp at isActive⟩

end Lane.Accounts

/-- Rounds of one more hold the lines of one more slot. -/
theorem Round.linesOf_concat (source : Nat) (rounds : List Round) (slots : List (Option Text)) :
    Round.linesOf source (rounds ++ [⟨slots⟩]) =
      Round.linesOf source rounds ++ (slots[source]?.join).toList := by
  -- The last round has a line of the source or none.
  cases held : slots[source]?.join <;> simp [Round.linesOf, Round.get?, held]

/-- A round without lines has none of any source. -/
theorem ConsumerPlace.slotOf_unfilled {slots : List (Option Text)}
    (unfilled : slots.any Option.isSome = false) (source : Nat) :
    (ConsumerPlace.draining slots).slotOf source = [] := by
  -- A slot that is there is empty, and one that is not there holds no line.
  cases found : slots[source]? with
  | none => simp [slotOf, found]
  | some slot =>
    have empty : slot.isSome = false := by
      simpa using List.any_eq_false.mp unfilled slot (List.mem_of_getElem? found)
    simp only [Option.isSome_eq_false_iff, Option.isNone_iff_eq_none] at empty
    simp [slotOf, found, empty]

/-- Where the lines of all sources are, and what the rounds look like. -/
structure Mux.Accounts (sources : List Source) (mux : Mux) : Prop where
  width : mux.lanes.length = sources.length
  lanes : ∀ (i : Nat) (source : Source) (lane : Lane),
    sources[i]? = some source → mux.lanes[i]? = some lane →
    lane.Accounts mux.active mux.closed (mux.delivered i) source.lines
  /-- A round has a slot for each source, and a line. -/
  rounds : ∀ round ∈ mux.rounds, round.size = sources.length ∧ round.hasLine = true
  /-- The queues are dropped when the consumer stops asking. -/
  closing : mux.closed = true ↔ mux.consumer = .joining ∨ mux.consumer = .finished

namespace Mux.Accounts

variable {sources : List Source} {mux next : Mux} {move : Move}

/-- At first all lines are ahead. -/
theorem ofSources (sources : List Source) (timed : Bool) :
    (Mux.ofSources sources timed).Accounts sources where
  width := by simp [Mux.ofSources, Mux.ofLanes]
  lanes i source lane registered found := by
    -- Nothing was read yet, so the queue, the reader and the rounds hold nothing.
    obtain rfl : Lane.ofSource source = lane := by
      simpa [Mux.ofSources, Mux.ofLanes, registered] using found
    exact Lane.Accounts.ofSource source
  rounds := by simp [Mux.ofSources, Mux.ofLanes]
  closing := by simp [Mux.ofSources, Mux.ofLanes]

/-- A consumer that holds no slots has open queues until it stops asking. -/
theorem isOpen (accounts : mux.Accounts sources) (notJoining : mux.consumer ≠ .joining)
    (notFinished : mux.consumer ≠ .finished) : mux.closed = false := by
  simpa [notJoining, notFinished] using accounts.closing

/-- Going from one place to another moves no line unless slots are dropped. -/
theorem goTo {place : ConsumerPlace} (accounts : mux.Accounts sources)
    (same : ∀ i, place.slotOf i = mux.consumer.slotOf i)
    (closing : (mux.consumer = .joining ∨ mux.consumer = .finished) ↔
      (place = .joining ∨ place = .finished)) :
    ({ mux with consumer := place } : Mux).Accounts sources where
  -- All that the account names is the same but for the place of the consumer.
  width := accounts.width
  lanes i source lane registered found := by
    simpa only [delivered, same] using accounts.lanes i source lane registered found
  rounds := accounts.rounds
  closing := accounts.closing.trans closing

/-- A consumer that stops asking leaves lines behind only after a stop. -/
theorem close (accounts : mux.Accounts sources) (isOpen : mux.closed = false)
    (unslotted : ∀ i, mux.consumer.slotOf i = [])
    (finished : mux.active = false ∨ mux.lanes.any Lane.live = false) :
    mux.close.Accounts sources where
  width := by simpa [Mux.close] using accounts.width
  lanes i source lane registered found := by
    simp only [Mux.close, List.getElem?_map, Option.map_eq_some_iff] at found
    obtain ⟨before, found, rfl⟩ := found
    have account := accounts.lanes i source before registered found
    simp only [isOpen, delivered, unslotted] at account
    refine account.clear fun isActive => ?_
    -- Without a stop, no lane was live any more.
    have dead : mux.lanes.any Lane.live = false := by simpa [isActive] using finished
    simpa using List.any_eq_false.mp dead before (List.mem_of_getElem? found)
  rounds := accounts.rounds
  closing := by simp [Mux.close]

/-- A stop request moves no line. -/
theorem stopRequested (accounts : mux.Accounts sources) :
    mux.stopRequested.Accounts sources := by
  -- The account of each lane holds with the activity or without it.
  unfold Mux.stopRequested
  split
  · exact ⟨accounts.width,
      fun i source lane registered found => (accounts.lanes i source lane registered found).stop,
      accounts.rounds, accounts.closing⟩
  · exact accounts

/-- A change of one lane keeps the account of all if it keeps the account of that lane. -/
theorem setLane {i : Nat} {lane changed : Lane} {place : ConsumerPlace}
    (accounts : mux.Accounts sources) (found : mux.lanes[i]? = some lane)
    (others : ∀ j, j ≠ i → place.slotOf j = mux.consumer.slotOf j)
    (account : ∀ lines, lane.Accounts mux.active mux.closed (mux.delivered i) lines →
      changed.Accounts mux.active mux.closed (Round.linesOf i mux.rounds ++ place.slotOf i) lines)
    (closing : (mux.consumer = .joining ∨ mux.consumer = .finished) ↔
      (place = .joining ∨ place = .finished)) :
    ({ mux with lanes := mux.lanes.set i changed, consumer := place } : Mux).Accounts sources where
  width := by simpa using accounts.width
  lanes j source other registered stored := by
    -- The lane that was changed has its own account; the others were not touched.
    by_cases here : j = i
    · subst j
      have inside : i < mux.lanes.length := (List.getElem?_eq_some_iff.mp found).1
      obtain rfl : changed = other := by simpa [inside] using stored
      exact account _ (accounts.lanes i source lane registered found)
    · have unchanged : mux.lanes[j]? = some other := by
        simpa [Ne.symm here] using stored
      simpa only [delivered, others j here] using
        accounts.lanes j source other registered unchanged
  rounds := accounts.rounds
  closing := accounts.closing.trans closing

/-- Slots beyond the one that is filled next are empty, and those before it stay. -/
theorem slotOf_concat {slots : List (Option Text)} {slot : Option Text} {i : Nat}
    (other : i ≠ slots.length) :
    (ConsumerPlace.draining (slots ++ [slot])).slotOf i =
      (ConsumerPlace.draining slots).slotOf i := by
  -- A slot before the new one is where it was; behind it there is none.
  rcases Nat.lt_or_ge i slots.length with before | after
  · simp [ConsumerPlace.slotOf, List.getElem?_append_left before]
  · have beyond : slots.length < i := Nat.lt_of_le_of_ne after (Ne.symm other)
    simp [ConsumerPlace.slotOf, List.getElem?_append_right after,
      List.getElem?_eq_none (Nat.le_of_lt beyond),
      List.getElem?_eq_none (show [slot].length ≤ i - slots.length by simp; omega)]

/-- Starting the readers moves no line. -/
theorem started (accounts : mux.Accounts sources) :
    ({ mux with lanes := mux.lanes.map Lane.started } : Mux).Accounts sources where
  width := by simpa using accounts.width
  lanes i source lane registered found := by
    simp only [List.getElem?_map, Option.map_eq_some_iff] at found
    obtain ⟨before, found, rfl⟩ := found
    exact (accounts.lanes i source before registered found).started
  rounds := accounts.rounds
  closing := accounts.closing

/-- A line that is taken from a queue goes to the slot of its source. -/
theorem take {slots : List (Option Text)} {lane : Lane} (accounts : mux.Accounts sources)
    (draining : mux.consumer = .draining slots) (found : mux.lanes[slots.length]? = some lane) :
    ({ mux with
        lanes := mux.lanes.set slots.length lane.taken.2
        consumer := .draining (slots ++ [lane.taken.1]) } : Mux).Accounts sources := by
  have isOpen := accounts.isOpen (by simp [draining]) (by simp [draining])
  refine accounts.setLane found (fun j other => ?_) (fun lines account => ?_) (by simp [draining])
  · rw [draining, slotOf_concat other]
  · -- The slot that is filled was beyond the others, so it is what its lane gave.
    simp only [isOpen, delivered, draining, ConsumerPlace.slotOf] at account ⊢
    simpa using account.taken

/-- The slots of the round that was assembled become those of the last round. -/
theorem deliver {slots : List (Option Text)} (accounts : mux.Accounts sources)
    (draining : mux.consumer = .draining slots) (full : slots.length = mux.lanes.length)
    (filled : slots.any Option.isSome = true) :
    ({ mux with consumer := .resting, rounds := mux.rounds ++ [⟨slots⟩] } : Mux).Accounts
      sources where
  width := accounts.width
  lanes i source lane registered found := by
    have account := accounts.lanes i source lane registered found
    simpa [delivered, draining, ConsumerPlace.slotOf, Round.linesOf_concat] using account
  rounds round member := by
    rcases List.mem_append.mp member with earlier | last
    · exact accounts.rounds round earlier
    · obtain rfl : round = ⟨slots⟩ := by simpa using last
      exact ⟨full.trans accounts.width, filled⟩
  closing := by simpa [draining] using accounts.closing

/-- Every action of every party keeps account of all lines. -/
theorem step (accounts : mux.Accounts sources) (stepped : mux.Step move next) :
    next.Accounts sources := by
  -- Places between which no line moves hold the same slots, and queues go only when none are held.
  cases stepped with
  | start => exact accounts.started
  | reader found went =>
    exact accounts.setLane found (fun _ _ => rfl) (fun _ account => account.readerStep went) .rfl
  | ask resting =>
    exact accounts.goTo (by simp [resting, ConsumerPlace.slotOf]) (by simp [resting])
  | wait checking =>
    exact accounts.goTo (by simp [checking, ConsumerPlace.slotOf]) (by simp [checking])
  | finish checking finished =>
    exact accounts.close (accounts.isOpen (by simp [checking]) (by simp [checking]))
      (by simp [checking, ConsumerPlace.slotOf]) finished
  | wakeUp waiting =>
    exact accounts.goTo (by simp [waiting, ConsumerPlace.slotOf]) (by simp [waiting])
  | timeOut waiting =>
    exact accounts.goTo (by simp [waiting, ConsumerPlace.slotOf]) (by simp [waiting])
  | drain woken =>
    exact accounts.goTo (by simp [woken, ConsumerPlace.slotOf]) (by simp [woken])
  | cancel woken stopped =>
    -- No round has begun at the look that sees the stop, so no slot is dropped.
    exact accounts.close (accounts.isOpen (by simp [woken]) (by simp [woken]))
      (by simp [woken, ConsumerPlace.slotOf]) (.inl stopped)
  | take draining found => exact accounts.take draining found
  | deliver draining full filled => exact accounts.deliver draining full filled
  | retry draining full unfilled =>
    refine accounts.goTo (fun i => ?_) (by simp [draining])
    rw [draining, ConsumerPlace.slotOf_unfilled unfilled i]
    rfl
  | join joining =>
    exact accounts.goTo (by simp [joining, ConsumerPlace.slotOf]) (by simp [joining])
  | drop resting =>
    -- The first consumer to give up requests a stop before it drops the queues.
    have stopped := accounts.stopRequested
    have isOpen := stopped.isOpen (by simp [resting]) (by simp [resting])
    have closed := stopped.close isOpen (by simp [resting, ConsumerPlace.slotOf])
      (.inl mux.stopRequested_active)
    exact ⟨closed.width, closed.lanes, closed.rounds, closed.closing⟩
  | requestStop => exact accounts.stopRequested
  | leaveWake => exact ⟨accounts.width, accounts.lanes, accounts.rounds, accounts.closing⟩

/-- Every run keeps account of all lines. -/
theorem moves {last : Mux} {moves : List Move} (accounts : mux.Accounts sources)
    (run : mux.moves? moves = some last) : last.Accounts sources :=
  -- Each move of the run performs one action.
  Mux.kept_by_moves step accounts run

/-- Each source has a lane that accounts for its lines. -/
theorem laneOf (accounts : mux.Accounts sources) {i : Nat} {source : Source}
    (registered : sources[i]? = some source) :
    ∃ lane : Lane, mux.lanes[i]? = some lane ∧
      lane.Accounts mux.active mux.closed (mux.delivered i) source.lines := by
  -- The number of lanes never changes, so a registered source has one.
  have inside : i < mux.lanes.length := by
    rw [accounts.width]
    exact (List.getElem?_eq_some_iff.mp registered).1
  exact ⟨mux.lanes[i], by simp [inside], accounts.lanes i source _ registered (by simp [inside])⟩

end Mux.Accounts

/-- Only a stop request and a consumer that gives up end the activity. -/
theorem Mux.Step.active_eq {mux next : Mux} {move : Move} (stepped : mux.Step move next)
    (noStop : move ≠ .requestStop) (noDrop : move ≠ .drop) : next.active = mux.active := by
  cases stepped with
  | requestStop => exact absurd rfl noStop
  | drop => exact absurd rfl noDrop
  | _ => rfl

/-- A run without stop requests and without a consumer that gives up stays active. -/
theorem Mux.active_of_moves {mux last : Mux} {moves : List Move} (active : mux.active = true)
    (noStop : .requestStop ∉ moves) (noDrop : .drop ∉ moves)
    (run : mux.moves? moves = some last) : last.active = true := by
  -- By induction on the moves: neither of the two that end the activity is among them.
  induction moves generalizing mux with
  | nil =>
    obtain rfl : mux = last := by simpa [moves?] using run
    exact active
  | cons move rest ih =>
    obtain ⟨next, moved, run⟩ := moves?_cons.mp run
    simp only [List.mem_cons, not_or] at noStop noDrop
    have same := (step_of_move? moved).active_eq (Ne.symm noStop.1) (Ne.symm noDrop.1)
    exact ih (same.trans active) noStop.2 noDrop.2 run

/-- In every state that moves can reach, the lines of a source that rounds hold, the one in the
round being assembled and those in its queue are, in this order, the beginning of its lines; every
round has a slot for each source and a line; and a consumer that is told of the end without a stop
was given all lines of all sources. -/
theorem Mux.rounds_deliver_lines_in_order (sources : List Source) (timed : Bool)
    (moves : List Move) (mux : Mux)
    (run : (Mux.ofSources sources timed).moves? moves = some mux) :
    (∀ i source, sources[i]? = some source → ∃ lane, mux.lanes[i]? = some lane ∧
      Round.linesOf i mux.rounds ++ mux.consumer.slotOf i ++ lane.queue <+: source.lines) ∧
    (∀ round ∈ mux.rounds, round.size = sources.length ∧ round.hasLine = true) ∧
    (mux.consumer = .finished → .requestStop ∉ moves → .drop ∉ moves →
      ∀ i source, sources[i]? = some source → Round.linesOf i mux.rounds = source.lines) := by
  -- The account holds in every state; the three parts of the theorem are read off it.
  have accounts := (Accounts.ofSources sources timed).moves run
  refine ⟨fun i source registered => ?_, accounts.rounds,
    fun finished noStop noDrop i source registered => ?_⟩
  · obtain ⟨lane, found, account⟩ := accounts.laneOf registered
    refine ⟨lane, found, ?_⟩
    -- What is left of the lines stands behind the queue, unless the queue is gone.
    cases isClosed : mux.closed with
    | false =>
      refine ⟨lane.reader.carried ++ lane.ahead, ?_⟩
      simpa [delivered, Lane.undelivered] using account.kept isClosed
    | true =>
      obtain ⟨empty, delivered⟩ := account.cleared isClosed
      simpa [Mux.delivered, empty] using delivered
  · -- Without a stop the end comes only when every source is at its end and every queue empty.
    obtain ⟨lane, found, account⟩ := accounts.laneOf registered
    have active := active_of_moves rfl noStop noDrop run
    have isClosed := accounts.closing.mpr (.inr finished)
    simpa [delivered, finished, ConsumerPlace.slotOf] using (account.complete active isClosed).2

/-- Two sources whose lines come while the consumer waits, looks and takes. -/
theorem Mux.rounds_deliver_lines_of_two_sources :
    let sources : List Source := [⟨['a'], [['x'], ['y']], false⟩, ⟨['b'], [['z']], false⟩]
    let moves : List Move :=
      [.start, .ask, .check, .timeOut, .check, .reader 0, .reader 0, .reader 0, .wakeUp,
       .reader 1, .recheck, .reader 1, .take, .reader 0, .reader 1, .reader 0, .take, .settle,
       .reader 0, .reader 0, .reader 0, .ask, .check, .wakeUp, .recheck, .take, .take, .settle,
       .reader 1, .reader 1, .ask, .check, .wakeUp, .recheck, .take, .take, .settle, .check, .join]
    ∃ mux, (Mux.ofSources sources true).moves? moves = some mux ∧
      mux.consumer = .finished ∧ mux.rounds.length = 2 ∧
      ∀ i source, sources[i]? = some source → Round.linesOf i mux.rounds = source.lines := by
  intro sources moves
  have ends : ((Mux.ofSources sources true).moves? moves).any
      (fun mux => mux.consumer == .finished && mux.rounds.length == 2) = true := by
    decide +kernel
  obtain ⟨mux, run, last⟩ := (Option.any_eq_true _ _).mp ends
  simp only [Bool.and_eq_true, beq_iff_eq] at last
  exact ⟨mux, run, last.1, last.2, (Mux.rounds_deliver_lines_in_order sources true moves mux
    run).2.2 last.1 (by decide) (by decide)⟩

end IdlScout
