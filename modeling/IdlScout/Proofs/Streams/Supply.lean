import IdlScout.Child.Feed
import IdlScout.Proofs.Streams.Delivery

/-! Sources that are handed their lines while they are read. -/

namespace IdlScout

namespace Source

/-- A line is handed to a source, or its end. After that nothing is. -/
def hand (source : Source) (message : Option Text) : Source :=
  if !source.held then source
  else
    match message with
    | some line => { source with lines := source.lines ++ [line] }
    | none => { source with held := false }

/-- The lines among messages, up to the first end. -/
def handed : List (Option Text) → List Text
  | [] => []
  | none :: _ => []
  | some line :: rest => line :: handed rest

/-- After an end nothing is handed in. -/
theorem handed_append (past later : List (Option Text)) :
    handed (past ++ later) =
      handed past ++ if past.all Option.isSome then handed later else [] := by
  induction past with
  | nil => rfl
  | cons message rest ih => cases message <;> simp [handed, ih]

/-- A source that has not ended gets the lines before the first end, and that. -/
theorem foldl_hand (source : Source) (held : source.held = true) (messages : List (Option Text)) :
    messages.foldl hand source =
      { source with
        lines := source.lines ++ handed messages
        held := messages.all Option.isSome } := by
  -- An end that comes early leaves the rest of the messages without effect.
  have ended_stays (ended : Source) (unheld : ended.held = false) (rest : List (Option Text)) :
      rest.foldl hand ended = ended := by
    induction rest with
    | nil => rfl
    | cons message rest ih =>
      have same : ended.hand message = ended := by simp [hand, unheld]
      rw [List.foldl_cons, same, ih]
  -- By induction on the messages: the first line joins the others, and an end stops them.
  induction messages generalizing source with
  | nil => simp [handed, ← held]
  | cons message rest ih =>
    cases message with
    | none =>
      rw [List.foldl_cons, ended_stays _ (by simp [hand, held])]
      simp [hand, held, handed]
    | some line =>
      rw [List.foldl_cons, ih _ (by simp [hand, held])]
      simp [hand, held, handed]

end Source

/-- One round more has the line of that round more. -/
theorem Round.linesOf_take_add_one (source : Nat) {rounds : List Round} {count : Nat}
    {round : Round} (found : rounds[count]? = some round) :
    linesOf source (rounds.take (count + 1)) =
      linesOf source (rounds.take count) ++ (round.get? source).toList := by
  rw [List.take_add_one, found, Option.toList_some, linesOf, List.filterMap_append]
  cases held : round.get? source <;> simp [linesOf, held]

/-- Without a stop a reader goes only after its source has ended. -/
def Lane.Listens (active : Bool) (lane : Lane) : Prop :=
  active = true → lane.held = true → lane.reader ≠ .done

/-- Without a stop all readers of sources that have not ended are there. -/
def Mux.Listens (mux : Mux) : Prop :=
  ∀ lane ∈ mux.lanes, lane.Listens mux.active

namespace Lane

variable {active closed : Bool} {delivered lines : List Text} {lane next : Lane}

/-- Further lines come behind those of before, unless the reader is gone without a stop. -/
theorem Accounts.supply {fresh : List Text}
    (accounts : lane.Accounts active closed delivered lines)
    (awaited : active = true → lane.reader ≠ .done) :
    ({ lane with ahead := lane.ahead ++ fresh } : Lane).Accounts active closed delivered
      (lines ++ fresh) where
  kept isOpen := by
    rw [← accounts.kept isOpen]
    simp [undelivered]
  cleared isClosed :=
    ⟨(accounts.cleared isClosed).1,
      (accounts.cleared isClosed).2.trans (List.prefix_append lines fresh)⟩
  exhausted isActive gone := absurd gone (awaited isActive)
  retired := accounts.retired
  -- A queue that is dropped without a stop has lost its reader before.
  complete isActive isClosed := absurd (accounts.complete isActive isClosed).1 (awaited isActive)

/-- What is handed in comes to the lane, unless its source has ended. -/
theorem Accounts.hand {source : Source}
    (accounts : lane.Accounts active closed delivered source.lines)
    (listens : lane.Listens active) (held : lane.held = source.held) (message : Option Text) :
    (lane.hand message).Accounts active closed delivered (source.hand message).lines ∧
      (lane.hand message).Listens active ∧
      (lane.hand message).held = (source.hand message).held := by
  cases unheld : source.held with
  | false =>
    -- Both take nothing any more.
    have same : lane.hand message = lane := by simp [Lane.hand, held, unheld]
    have ended : source.hand message = source := by simp [Source.hand, unheld]
    rw [same, ended]
    exact ⟨accounts, listens, held⟩
  | true =>
    have isHeld := held.trans unheld
    cases message with
    | none =>
      have ends : lane.hand none = { lane with held := false } := by simp [Lane.hand, isHeld]
      have ended : source.hand none = { source with held := false } := by
        simp [Source.hand, unheld]
      have deaf : ({ lane with held := false } : Lane).Listens active :=
        fun _ stillHeld => by cases stillHeld
      rw [ends, ended]
      -- No account speaks of the end of the source.
      exact ⟨⟨accounts.kept, accounts.cleared, accounts.exhausted, accounts.retired,
        accounts.complete⟩, deaf, rfl⟩
    | some line =>
      have gets : lane.hand (some line) = { lane with ahead := lane.ahead ++ [line] } := by
        simp [Lane.hand, isHeld]
      have handed : source.hand (some line) = { source with lines := source.lines ++ [line] } := by
        simp [Source.hand, unheld]
      rw [gets, handed]
      exact ⟨accounts.supply fun isActive => listens isActive isHeld, listens, held⟩

/-- A reader's action does not end its source. -/
theorem held_of_readerStep (stepped : lane.readerStep? active closed = some next) :
    next.held = lane.held := by
  -- Only the reader's own place and its queue are changed, whatever it does.
  unfold readerStep? at stepped
  split at stepped
  · cases stepped
  · cases stepped
  · obtain rfl : _ = next := by simpa only [Option.some.injEq] using stepped
    rfl
  · split at stepped
    · obtain rfl : _ = next := by simpa only [Option.some.injEq] using stepped
      rfl
    · simp only [Option.ite_none_left_eq_some, Option.some.injEq] at stepped
      rw [← stepped.2]
  · split at stepped <;>
    · obtain rfl : _ = next := by simpa only [Option.some.injEq] using stepped
      rfl

/-- Taking a line does not end a source. -/
theorem held_taken (lane : Lane) : lane.taken.2.held = lane.held := by
  unfold Lane.taken
  split
  · rfl
  · split <;> rfl

/-- Starting a reader does not end its source. -/
theorem held_started (lane : Lane) : lane.started.held = lane.held := by
  unfold Lane.started
  split <;> rfl

/-- A reader that goes saw a stop, the end of its source, or no queue. -/
theorem Accounts.listens_of_readerStep (accounts : lane.Accounts active closed delivered lines)
    (stepped : lane.readerStep? active closed = some next) : next.Listens active := by
  -- The places from which a reader may go are looked at one by one.
  have present := reader_ne_done stepped
  intro isActive stillHeld gone
  unfold readerStep? at stepped
  split at stepped
  · cases stepped
  · cases stepped
  · obtain rfl : _ = next := by simpa only [Option.some.injEq] using stepped
    simp [isActive] at gone
  · split at stepped
    · obtain rfl : _ = next := by simpa only [Option.some.injEq] using stepped
      simp at gone
    · split at stepped
      · cases stepped
      · rename_i ended
        obtain rfl : _ = next := by simpa only [Option.some.injEq] using stepped
        exact ended stillHeld
  · split at stepped
    · -- Without a stop no queue is dropped before its reader is gone.
      rename_i isClosed
      exact present (accounts.complete isActive isClosed).1
    · obtain rfl : _ = next := by simpa only [Option.some.injEq] using stepped
      simp at gone

/-- A reader that starts is not gone. -/
theorem Listens.started (listens : lane.Listens active) : lane.started.Listens active := by
  unfold Lane.started
  -- A reader that has started may go on; any other stands where it stood.
  split
  · exact fun _ _ gone => by simp at gone
  · exact listens

/-- Taking a line moves no reader. -/
theorem Listens.taken (listens : lane.Listens active) : lane.taken.2.Listens active := by
  unfold Lane.taken
  split
  · exact listens
  · split <;> exact listens

end Lane

namespace Mux.Listens

variable {sources : List Source} {mux next : Mux} {move : Move}

/-- Dropping the queues moves no reader. -/
theorem close (listens : mux.Listens) : mux.close.Listens := by
  intro lane member
  obtain ⟨before, inside, rfl⟩ := List.mem_map.mp member
  exact listens before inside

/-- After a stop nothing is promised. -/
theorem stopRequested (mux : Mux) : mux.stopRequested.Listens := by
  -- Only an active mux promises anything.
  intro lane _ isActive
  simp at isActive

/-- A change of one lane. -/
theorem setLane {i : Nat} {changed : Lane} {place : ConsumerPlace} (listens : mux.Listens)
    (here : changed.Listens mux.active) :
    ({ mux with lanes := mux.lanes.set i changed, consumer := place } : Mux).Listens := by
  intro lane member
  -- The lane that was changed keeps the promise by assumption, the others as before.
  rcases List.mem_or_eq_of_mem_set member with before | same
  · exact listens lane before
  · exact same ▸ here

/-- Every action of every party leaves the readers at sources that have not ended. -/
theorem step (accounts : mux.Accounts sources) (listens : mux.Listens)
    (stepped : mux.Step move next) : next.Listens := by
  cases stepped with
  | start =>
    intro lane member
    obtain ⟨before, inside, rfl⟩ := List.mem_map.mp member
    exact (listens before inside).started
  | @reader i lane after found went =>
    -- The reader's lane belongs to a source, whose account tells why the reader goes.
    have inside : i < mux.lanes.length := (List.getElem?_eq_some_iff.mp found).1
    -- Accounts and lanes are as many, so every reader has its source.
    rw [accounts.width] at inside
    have registered : sources[i]? = some sources[i] := List.getElem?_eq_getElem inside
    exact listens.setLane ((accounts.lanes i _ lane registered found).listens_of_readerStep went)
  | take draining found => exact listens.setLane (listens _ (List.mem_of_getElem? found)).taken
  | finish | cancel => exact listens.close
  | drop => exact (stopRequested mux).close
  | requestStop => exact stopRequested mux
  | _ => exact listens

end Mux.Listens

namespace Mux

variable {sources : List Source} {mux next : Mux} {move : Move}

/-- A lane that is put in the place of one that ends like it. -/
theorem held_set {lanes : List Lane} {i : Nat} {lane changed : Lane}
    (found : lanes[i]? = some lane) (same : changed.held = lane.held) :
    (lanes.set i changed).map Lane.held = lanes.map Lane.held := by
  -- The list of ends has the same mark at that place already.
  obtain ⟨inside, rfl⟩ := List.getElem?_eq_some_iff.mp found
  have bound : i < (lanes.map Lane.held).length := by simpa using inside
  have before : lanes[i].held = (lanes.map Lane.held)[i] := by simp
  rw [List.map_set, same, before, List.set_getElem_self]

/-- No action of a party ends a source. -/
theorem Step.held_eq (stepped : mux.Step move next) :
    next.lanes.map Lane.held = mux.lanes.map Lane.held := by
  have cleared : (mux.lanes.map Lane.cleared).map Lane.held = mux.lanes.map Lane.held := by
    rw [List.map_map]
    rfl
  -- Readers, the consumer and stops change other parts of a lane.
  cases stepped with
  | start =>
    rw [List.map_map]
    exact List.map_congr_left fun lane _ => lane.held_started
  | reader found went => exact held_set found (Lane.held_of_readerStep went)
  | take draining found => exact held_set found (Lane.held_taken _)
  | finish | cancel => exact cleared
  | drop => simpa only [close, stopRequested_lanes] using cleared
  | requestStop => rw [stopRequested_lanes]
  | _ => rfl

/-- Rounds that were given stay. -/
theorem Step.rounds_isPrefix (stepped : mux.Step move next) : mux.rounds <+: next.rounds := by
  -- Only handing out a round changes the rounds, and it adds one.
  cases stepped with
  | deliver => exact List.prefix_append _ _
  | drop | requestStop => exact mux.stopRequested_rounds ▸ List.prefix_rfl
  | _ => exact List.prefix_rfl

/-- The first consumer is given all lines. -/
theorem Accounts.handOut (accounts : mux.Accounts sources) (first : mux.handedOut = false) :
    mux.handOut.Accounts sources := by
  have started := accounts.step .start
  simp only [Mux.handOut, first, Bool.false_eq_true, if_false]
  exact ⟨started.width, started.lanes, started.rounds, started.closing⟩

/-- One of the sources is handed a line, or its end. -/
def hand (mux : Mux) (source : Nat) (message : Option Text) : Mux :=
  { mux with lanes := mux.lanes.modify source fun lane => lane.hand message }

/-- Sources that are handed their lines while they are read: where these are, and which sources have
ended. -/
structure Gets (sources : List Source) (mux : Mux) : Prop where
  accounts : mux.Accounts sources
  listens : mux.Listens
  held : mux.lanes.map Lane.held = sources.map Source.held

namespace Gets

/-- Each source has a lane that ends with it. -/
theorem laneOf (gets : mux.Gets sources) {i : Nat} {source : Source}
    (registered : sources[i]? = some source) :
    ∃ lane, mux.lanes[i]? = some lane ∧ lane.held = source.held ∧
      lane.Accounts mux.active mux.closed (mux.delivered i) source.lines := by
  obtain ⟨lane, found, account⟩ := gets.accounts.laneOf registered
  -- Sources and lanes end together, as lists.
  have held := congrArg (fun held => held[i]?) gets.held
  simp only [List.getElem?_map, found, registered, Option.map_some, Option.some.injEq] at held
  exact ⟨lane, found, held, account⟩

/-- What is handed in comes to its source, unless that has ended. -/
theorem hand (gets : mux.Gets sources) (i : Nat) (message : Option Text) :
    (mux.hand i message).Gets (sources.modify i fun source => source.hand message) := by
  -- Source and lane are changed alike at one index, and left alone at the others.
  have both (j : Nat) (source : Source) (lane : Lane)
      (registered : (sources.modify i fun source => source.hand message)[j]? = some source)
      (found : (mux.lanes.modify i fun lane => lane.hand message)[j]? = some lane) :
      lane.Accounts mux.active mux.closed (mux.delivered j) source.lines ∧
        lane.Listens mux.active ∧ lane.held = source.held := by
    simp only [List.getElem?_modify, Option.map_eq_map, Option.map_eq_some_iff] at registered found
    obtain ⟨before, registered, rfl⟩ := registered
    obtain ⟨lane, found, rfl⟩ := found
    obtain ⟨same, here, held, account⟩ := gets.laneOf registered
    -- The lane of the account is the one at that index.
    obtain rfl : lane = same := Option.some.inj (found.symm.trans here)
    have listens := gets.listens lane (List.mem_of_getElem? found)
    by_cases this : i = j
    · simpa only [if_pos this] using account.hand listens held message
    · simpa only [if_neg this] using ⟨account, listens, held⟩
  have width : (mux.hand i message).lanes.length =
      (sources.modify i fun source => source.hand message).length := by
    simpa [Mux.hand] using gets.accounts.width
  refine ⟨⟨width, fun j source lane registered found => (both j source lane registered found).1,
    ?_, gets.accounts.closing⟩, fun lane member => ?_, List.ext_getElem? fun j => ?_⟩
  · simpa [Mux.hand] using gets.accounts.rounds
  · obtain ⟨j, inside, rfl⟩ := List.getElem_of_mem member
    exact (both j _ _ (List.getElem?_eq_getElem (width ▸ inside))
      (List.getElem?_eq_getElem inside)).2.1
  · -- Beyond the last lane there is no source either.
    rw [List.getElem?_map, List.getElem?_map]
    rcases Nat.lt_or_ge j (mux.hand i message).lanes.length with inside | beyond
    · have same := (both j _ _ (List.getElem?_eq_getElem (width ▸ inside))
        (List.getElem?_eq_getElem inside)).2.2
      rw [List.getElem?_eq_getElem inside, List.getElem?_eq_getElem (width ▸ inside)]
      exact congrArg some same
    · rw [List.getElem?_eq_none beyond, List.getElem?_eq_none (width ▸ beyond)]
      rfl

/-- Every action of every party keeps account of what was handed in. -/
theorem step (gets : mux.Gets sources) (stepped : mux.Step move next) : next.Gets sources :=
  ⟨gets.accounts.step stepped, .step gets.accounts gets.listens stepped,
    stepped.held_eq.trans gets.held⟩

/-- The lines in rounds are the first that were handed in. -/
theorem rounds_isPrefix (gets : mux.Gets sources) (i : Nat) {source : Source}
    (registered : sources[i]? = some source) :
    Round.linesOf i mux.rounds <+: source.lines := by
  obtain ⟨lane, -, -, account⟩ := gets.laneOf registered
  have delivered : mux.delivered i <+: source.lines := by
    -- Once the queues are gone what was in them is lost, but not what came before.
    cases closed : mux.closed with
    | false => exact ⟨lane.undelivered, account.kept closed⟩
    | true => exact (account.cleared closed).2
  exact (List.prefix_append _ _).trans delivered

/-- Without a stop the last round comes after the end of all sources. -/
theorem complete (gets : mux.Gets sources) (active : mux.active = true)
    (finished : mux.consumer = .finished) (i : Nat) {source : Source}
    (registered : sources[i]? = some source) :
    Round.linesOf i mux.rounds = source.lines ∧ source.held = false := by
  obtain ⟨lane, found, held, account⟩ := gets.laneOf registered
  have closed := gets.accounts.closing.mpr (.inr finished)
  obtain ⟨gone, all⟩ := account.complete active closed
  refine ⟨by simpa [delivered, finished, ConsumerPlace.slotOf] using all, ?_⟩
  cases ends : source.held with
  | false => rfl
  | true =>
    -- The reader would have stayed at a source that has not ended.
    have listens := gets.listens lane (List.mem_of_getElem? found) active
    exact absurd gone (listens (held.trans ends))

/-- Sources that were handed nothing. -/
theorem ofSources (sources : List Source) (timed : Bool) :
    (Mux.ofSources sources timed).handOut.Gets sources where
  accounts := (Accounts.ofSources sources timed).handOut rfl
  listens lane member := by
    -- At the start no reader is gone.
    obtain ⟨before, inside, rfl⟩ := List.mem_map.mp member
    obtain ⟨source, listed, rfl⟩ := List.mem_map.mp inside
    exact fun _ _ gone => by cases gone
  held := by
    simp only [Mux.handOut, Mux.ofSources, Mux.ofLanes, Bool.false_eq_true, if_false, List.map_map]
    rfl

end Gets
end Mux
end IdlScout
