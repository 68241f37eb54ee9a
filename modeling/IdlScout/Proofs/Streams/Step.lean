import IdlScout.Streams.Mux

/-! The moves of a multiplexer as a relation that says all that each of them can do. -/

namespace IdlScout

/-- The one action that a move performs, with what must hold for it and the state after it. -/
inductive Mux.Step (mux : Mux) : Move → Mux → Prop where
  | start : Step mux .start { mux with lanes := mux.lanes.map Lane.started }
  | reader {source : Nat} {lane next : Lane} (found : mux.lanes[source]? = some lane)
      (stepped : lane.readerStep? mux.active mux.closed = some next) :
      Step mux (.reader source) { mux with lanes := mux.lanes.set source next }
  | ask (resting : mux.consumer = .resting) : Step mux .ask { mux with consumer := .checking }
  | wait (checking : mux.consumer = .checking) (active : mux.active = true)
      (live : mux.lanes.any Lane.live = true) :
      Step mux .check { mux with consumer := .waiting }
  | finish (checking : mux.consumer = .checking)
      (finished : mux.active = false ∨ mux.lanes.any Lane.live = false) : Step mux .check mux.close
  | wakeUp (waiting : mux.consumer = .waiting)
      (ready : mux.wake = true ∨ mux.lanes.any Lane.isReady = true) :
      Step mux .wakeUp { mux with consumer := .woken }
  | timeOut (waiting : mux.consumer = .waiting) (timed : mux.timed = true) :
      Step mux .timeOut { mux with consumer := .checking }
  | drain (woken : mux.consumer = .woken) (active : mux.active = true) :
      Step mux .recheck { mux with consumer := .draining [] }
  | cancel (woken : mux.consumer = .woken) (stopped : mux.active = false) :
      Step mux .recheck mux.close
  | take {slots : List (Option Text)} {lane : Lane} (draining : mux.consumer = .draining slots)
      (found : mux.lanes[slots.length]? = some lane) :
      Step mux .take { mux with
        lanes := mux.lanes.set slots.length lane.taken.2
        consumer := .draining (slots ++ [lane.taken.1]) }
  | deliver {slots : List (Option Text)} (draining : mux.consumer = .draining slots)
      (full : slots.length = mux.lanes.length) (filled : slots.any Option.isSome = true) :
      Step mux .settle { mux with consumer := .resting, rounds := mux.rounds ++ [⟨slots⟩] }
  | retry {slots : List (Option Text)} (draining : mux.consumer = .draining slots)
      (full : slots.length = mux.lanes.length) (unfilled : slots.any Option.isSome = false) :
      Step mux .settle { mux with consumer := .checking }
  | join (joining : mux.consumer = .joining)
      (gone : mux.lanes.all (·.reader == .done) = true) :
      Step mux .join { mux with consumer := .finished }
  | drop (resting : mux.consumer = .resting) :
      Step mux .drop { mux.stopRequested.close with dropped := true }
  | requestStop : Step mux .requestStop mux.stopRequested
  | leaveWake {due : Nat} (owed : mux.wakesDue = due + 1) :
      Step mux .leaveWake { mux with wakesDue := due, wake := true }

/-- The consumer asks for a round and waits until queues are ready. -/
def Move.isWait : Move → Bool
  | .ask | .check | .wakeUp | .timeOut | .recheck => true
  | _ => false

/-- The consumer takes lines from queues and makes a round of them. -/
def Move.isDrain : Move → Bool
  | .take | .settle => true
  | _ => false

namespace Mux

variable {mux next : Mux} {move : Move}

/-- Only the first stop request changes anything. -/
theorem stopRequested_of_stopped (stopped : mux.active = false) : mux.stopRequested = mux := by
  simp [stopRequested, stopped]

-- A stop request ends the activity and owes a wake-up; the rest of the state is as it was.

@[simp] theorem stopRequested_active (mux : Mux) : mux.stopRequested.active = false := by
  cases active : mux.active <;> simp [stopRequested, active]

@[simp] theorem stopRequested_lanes (mux : Mux) : mux.stopRequested.lanes = mux.lanes := by
  unfold stopRequested
  split <;> rfl

@[simp] theorem stopRequested_consumer (mux : Mux) :
    mux.stopRequested.consumer = mux.consumer := by
  unfold stopRequested
  split <;> rfl

@[simp] theorem stopRequested_rounds (mux : Mux) : mux.stopRequested.rounds = mux.rounds := by
  unfold stopRequested
  split <;> rfl

@[simp] theorem stopRequested_handedOut (mux : Mux) :
    mux.stopRequested.handedOut = mux.handedOut := by
  unfold stopRequested
  split <;> rfl

@[simp] theorem stopRequested_wake (mux : Mux) : mux.stopRequested.wake = mux.wake := by
  unfold stopRequested
  split <;> rfl

/-- Up to the moment at which it may take lines the consumer goes from place to place; on the way it
sees twice whether a stop was requested, and then there is nothing more to take. -/
theorem Step.of_wait (waits : move.isWait = true) (moved : mux.move? move = some next) :
    mux.Step move next := by
  cases move with
  | ask =>
    simp only [move?, Option.ite_none_right_eq_some, Option.some.injEq] at moved
    obtain ⟨resting, rfl⟩ := moved
    exact .ask resting
  | check =>
    simp only [move?, ne_eq, ite_not, Option.ite_none_right_eq_some] at moved
    obtain ⟨checking, moved⟩ := moved
    split at moved
    · next wanted =>
      simp only [Bool.and_eq_true] at wanted
      obtain rfl : _ = next := Option.some.inj moved
      exact .wait checking wanted.1 wanted.2
    · -- Either condition may be what ends the rounds.
      next unwanted =>
      obtain rfl : _ = next := Option.some.inj moved
      exact .finish checking (by
        simpa only [Bool.and_eq_true, Classical.not_and_iff_not_or_not, Bool.not_eq_true]
          using unwanted)
  | wakeUp =>
    simp only [move?, Option.ite_none_right_eq_some, Bool.and_eq_true, decide_eq_true_eq,
      Bool.or_eq_true, Option.some.injEq] at moved
    obtain ⟨⟨waiting, ready⟩, rfl⟩ := moved
    exact .wakeUp waiting ready
  | timeOut =>
    simp only [move?, Option.ite_none_right_eq_some, Bool.and_eq_true, decide_eq_true_eq,
      Option.some.injEq] at moved
    obtain ⟨⟨waiting, timed⟩, rfl⟩ := moved
    exact .timeOut waiting timed
  | recheck =>
    simp only [move?, ne_eq, ite_not, Option.ite_none_right_eq_some] at moved
    obtain ⟨woken, moved⟩ := moved
    split at moved
    · next active =>
      obtain rfl : _ = next := Option.some.inj moved
      exact .drain woken active
    · next stopped =>
      obtain rfl : _ = next := Option.some.inj moved
      exact .cancel woken (by simpa only [Bool.not_eq_true] using stopped)
  | _ => cases waits

/-- While the consumer drains, the slots that it has filled say which queue is next, or that the
round is full. -/
theorem Step.of_drain (drains : move.isDrain = true) (moved : mux.move? move = some next) :
    mux.Step move next := by
  cases move with
  | take =>
    simp only [move?] at moved
    split at moved
    · next slots draining =>
      split at moved
      · next lane found =>
        obtain rfl : _ = next := Option.some.inj moved
        exact .take draining found
      · -- All queues were visited.
        cases moved
    · cases moved
  | settle =>
    simp only [move?] at moved
    split at moved
    · next slots draining =>
      simp only [ne_eq, ite_not, Option.ite_none_right_eq_some] at moved
      obtain ⟨full, moved⟩ := moved
      split at moved
      · next filled =>
        obtain rfl : _ = next := Option.some.inj moved
        exact .deliver draining full filled
      · -- Without a line the consumer looks at the queues again.
        next unfilled =>
        obtain rfl : _ = next := Option.some.inj moved
        exact .retry draining full (by simpa only [Bool.not_eq_true] using unfilled)
    · cases moved
  | _ => cases drains

/-- A possible move performs exactly one of the actions. -/
theorem step_of_move? (moved : mux.move? move = some next) : mux.Step move next := by
  -- The consumer's moves are told apart by where it stands; those of others have one action each.
  cases move with
  | ask | check | wakeUp | timeOut | recheck => exact .of_wait rfl moved
  | take | settle => exact .of_drain rfl moved
  | start =>
    obtain rfl : _ = next := Option.some.inj moved
    exact .start
  | reader source =>
    simp only [move?, Option.bind_eq_bind, Option.bind_eq_some_iff, Option.pure_def,
      Option.some.injEq] at moved
    obtain ⟨lane, found, stepped, went, rfl⟩ := moved
    exact .reader found went
  | join =>
    simp only [move?, Option.ite_none_right_eq_some, Bool.and_eq_true, decide_eq_true_eq,
      Option.some.injEq] at moved
    obtain ⟨⟨joining, gone⟩, rfl⟩ := moved
    exact .join joining gone
  | drop =>
    simp only [move?, Option.ite_none_right_eq_some, Option.some.injEq] at moved
    obtain ⟨resting, rfl⟩ := moved
    exact .drop resting
  | requestStop =>
    obtain rfl : _ = next := Option.some.inj moved
    exact .requestStop
  | leaveWake =>
    simp only [move?] at moved
    split at moved
    · cases moved
    · next due owed =>
      obtain rfl : _ = next := Option.some.inj moved
      exact .leaveWake owed

/-- A run begins with its first move. -/
theorem moves?_cons {last : Mux} {rest : List Move} :
    mux.moves? (move :: rest) = some last ↔
      ∃ next, mux.move? move = some next ∧ next.moves? rest = some last := by
  simp [moves?, Option.bind_eq_some_iff]

/-- What every action keeps holds after every run. -/
theorem kept_by_moves {kept : Mux → Prop}
    (step : ∀ {mux next : Mux} {move : Move}, kept mux → mux.Step move next → kept next)
    {mux last : Mux} {moves : List Move} (first : kept mux)
    (run : mux.moves? moves = some last) : kept last := by
  -- The run is taken apart move by move, from its start.
  induction moves generalizing mux with
  | nil =>
    obtain rfl : mux = last := by simpa [moves?] using run
    exact first
  | cons move rest ih =>
    obtain ⟨next, moved, run⟩ := moves?_cons.mp run
    exact ih (step first (step_of_move? moved)) run

end Mux
end IdlScout
