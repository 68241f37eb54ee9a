import IdlScout.Proofs.Streams.Delivery

/-! A stop is for good: no wake-up is lost, at most one round follows, and the consumer is told of
the end as soon as the readers are gone. -/

namespace IdlScout

/-- The most actions that a reader takes once a stop was requested. -/
def ReaderPlace.effort : ReaderPlace → Nat
  | .done => 0
  | .checking => 1
  | .unborn | .sending _ => 2
  -- The line that is awaited is queued before the stop is seen.
  | .reading => 3

/-- The most actions that a consumer of some queues takes once a stop was requested. -/
def ConsumerPlace.effort (queues : Nat) : ConsumerPlace → Nat
  | .finished => 0
  | .joining => 1
  | .checking | .woken => 2
  | .waiting | .resting => 3
  -- The queues that were not looked at come before the end of the round.
  | .draining slots => 4 + (queues - slots.length)

/-- The most actions that the readers of lanes take once a stop was requested. -/
def Lane.effort : List Lane → Nat
  | [] => 0
  | lane :: rest => lane.reader.effort + effort rest

/-- The most actions that all parties together take once a stop was requested. -/
def Mux.effort (mux : Mux) : Nat :=
  mux.consumer.effort mux.lanes.length + Lane.effort mux.lanes + mux.wakesDue

/-- Moves that are possible one after the other, each with an effect. -/
def Mux.works (mux : Mux) : List Move → Prop
  | [] => True
  | move :: rest => ∃ next, mux.move? move = some next ∧ next ≠ mux ∧ next.works rest

/-- No move has an effect any more. -/
def Mux.isAtRest (mux : Mux) : Prop :=
  ∀ move next, mux.move? move = some next → next = mux

/-- The reader waits for a source that gives no line and does not end. -/
def Lane.isHeldUp (lane : Lane) : Prop :=
  lane.reader = .reading ∧ lane.ahead = [] ∧ lane.held = true

/-- One wake-up is left for the stop that ends the activity, and a round has no slot too many. -/
structure Mux.Regular (mux : Mux) : Prop where
  /-- The request that finds the activity going owes a wake-up until it has left it. -/
  wakes : mux.wakesDue + mux.wake.toNat = (!mux.active).toNat
  slots : ∀ slots, mux.consumer = .draining slots → slots.length ≤ mux.lanes.length

namespace Mux.Regular

variable {mux next : Mux} {move : Move}

/-- Before anything was done, no stop was requested. -/
theorem ofSources (sources : List Source) (timed : Bool) :
    (Mux.ofSources sources timed).Regular where
  wakes := rfl
  slots slots draining := by simp [Mux.ofSources, Mux.ofLanes] at draining

/-- Only the first of any number of requests owes a wake-up. -/
theorem stopRequested (regular : mux.Regular) : mux.stopRequested.Regular := by
  unfold Mux.stopRequested
  -- Active, the mux has left no wake-up yet; otherwise the request changes nothing.
  split
  · rename_i active
    have wakes := regular.wakes
    refine ⟨?_, regular.slots⟩
    simp only [active, Bool.not_true, Bool.toNat_false] at wakes
    simp only [Bool.not_false, Bool.toNat_true]
    omega
  · exact regular

/-- Another place of the consumer that fills no slots changes no count. -/
theorem goTo {place : ConsumerPlace} (regular : mux.Regular)
    (unslotted : ∀ slots, place ≠ .draining slots) :
    ({ mux with consumer := place } : Mux).Regular :=
  ⟨regular.wakes, fun slots draining => absurd draining (unslotted slots)⟩

/-- Every action keeps the count of wake-ups and of slots. -/
theorem step (regular : mux.Regular) (stepped : mux.Step move next) : next.Regular := by
  cases stepped with
  -- Most actions touch neither wake-ups nor slots.
  | start => exact ⟨regular.wakes, by simpa using regular.slots⟩
  | reader => exact ⟨regular.wakes, by simpa using regular.slots⟩
  | ask | wait | wakeUp | timeOut | retry | join => exact regular.goTo (by simp)
  | finish | cancel => exact ⟨regular.wakes, by simp [Mux.close]⟩
  | drain => exact ⟨regular.wakes, by simp⟩
  | take draining found =>
    rename_i slots lane
    refine ⟨regular.wakes, fun filled place => ?_⟩
    -- The slot that is filled belongs to a queue that is there.
    have inside : slots.length < mux.lanes.length := (List.getElem?_eq_some_iff.mp found).1
    obtain rfl : slots ++ [lane.taken.1] = filled := by simpa using place
    simp only [List.length_append, List.length_singleton, List.length_set]
    omega
  | deliver => exact ⟨regular.wakes, by simp⟩
  | drop =>
    have stopped := regular.stopRequested
    exact ⟨stopped.wakes, by simp [Mux.close]⟩
  | requestStop => exact regular.stopRequested
  | leaveWake owed =>
    have wakes := regular.wakes
    refine ⟨?_, regular.slots⟩
    -- A wake-up that is due excludes one that is there.
    have once := Bool.toNat_le (!mux.active)
    simp only [owed, Bool.toNat_true] at wakes ⊢
    omega

end Mux.Regular

/-- What became of a stopped mux: the activity does not come back, and only a round that was being
assembled is finished. -/
structure Mux.Winds (first last : Mux) : Prop where
  inactive : last.active = false
  rounds : (last.rounds = first.rounds ∧ ∀ slots, last.consumer = .draining slots →
      ∃ begun more, first.consumer = .draining begun ∧ slots = begun ++ more) ∨
    (∃ begun more, first.consumer = .draining begun ∧
      last.rounds = first.rounds ++ [⟨begun ++ more⟩] ∧
      ∀ slots, last.consumer ≠ .draining slots)

namespace Mux.Winds

variable {first mux next : Mux} {move : Move}

/-- At the stop nothing has become of the mux yet. -/
theorem refl (stopped : first.active = false) : first.Winds first :=
  ⟨stopped, .inl ⟨rfl, fun slots draining => ⟨slots, [], draining, by simp⟩⟩⟩

/-- A consumer that is at no slots, and was given no round, can only come to its end. -/
theorem goTo {mux' : Mux} (winds : first.Winds mux) (inactive : mux'.active = false)
    (rounds : mux'.rounds = mux.rounds) (unslotted : ∀ slots, mux'.consumer ≠ .draining slots) :
    first.Winds mux' := by
  refine ⟨inactive, ?_⟩
  -- A round that began before the stop may have been handed out since, but no other one.
  rcases winds.rounds with ⟨same, -⟩ | ⟨begun, more, draining, one, -⟩
  · exact .inl ⟨rounds.trans same, fun slots draining => absurd draining (unslotted slots)⟩
  · exact .inr ⟨begun, more, draining, rounds.trans one, unslotted⟩

/-- What leaves the consumer where it is changes no round. -/
theorem stay {mux' : Mux} (winds : first.Winds mux) (inactive : mux'.active = false)
    (rounds : mux'.rounds = mux.rounds) (consumer : mux'.consumer = mux.consumer) :
    first.Winds mux' :=
  ⟨inactive, by rw [rounds, consumer]; exact winds.rounds⟩

/-- A consumer that fills slots was doing so at the stop, and was given no round since. -/
theorem of_draining {slots : List (Option Text)} (winds : first.Winds mux)
    (draining : mux.consumer = .draining slots) :
    mux.rounds = first.rounds ∧
      ∃ begun more, first.consumer = .draining begun ∧ slots = begun ++ more := by
  rcases winds.rounds with ⟨same, begun⟩ | ⟨-, -, -, -, none⟩
  · exact ⟨same, begun slots draining⟩
  · exact absurd draining (none slots)

/-- No action brings the activity back, or begins another round. -/
theorem step (winds : first.Winds mux) (stepped : mux.Step move next) : first.Winds next := by
  have inactive := winds.inactive
  cases stepped with
  | start | reader | leaveWake => exact winds.stay inactive rfl rfl
  | ask | wait | wakeUp | timeOut | retry | join => exact winds.goTo inactive rfl (by simp)
  | finish | cancel => exact winds.goTo inactive rfl (by simp [Mux.close])
  | drain woken active =>
    -- The look that lets a round begin sees the stop.
    simp [inactive] at active
  | take draining found =>
    rename_i slots lane
    -- A slot is filled from the round that had begun when the stop came.
    obtain ⟨same, begun, more, atStop, rfl⟩ := winds.of_draining draining
    refine ⟨inactive, .inl ⟨same, fun filled place => ⟨begun, more ++ [lane.taken.1], atStop, ?_⟩⟩⟩
    obtain rfl : _ = filled := by simpa only [ConsumerPlace.draining.injEq] using place
    rw [List.append_assoc]
  | deliver draining =>
    obtain ⟨same, begun, more, atStop, rfl⟩ := winds.of_draining draining
    exact ⟨inactive, .inr ⟨begun, more, atStop, by rw [same], by simp⟩⟩
  | drop =>
    -- A second stop changes nothing.
    rw [stopRequested_of_stopped inactive]
    exact winds.goTo inactive rfl (by simp [Mux.close])
  | requestStop => rwa [stopRequested_of_stopped inactive]

end Mux.Winds

namespace Lane

variable {lane next : Lane} {lanes : List Lane}

/-- A changed lane changes what the readers have to do by its own part. -/
theorem effort_set {i : Nat} (found : lanes[i]? = some lane) (next : Lane) :
    effort (lanes.set i next) + lane.reader.effort = effort lanes + next.reader.effort := by
  -- By induction on the place of the lane in the list.
  induction lanes generalizing i with
  | nil => simp at found
  | cons first rest ih =>
    cases i with
    | zero =>
      obtain rfl : first = lane := by simpa using found
      simp only [List.set_cons_zero, effort]
      omega
    | succ i =>
      have later := ih (by simpa using found)
      simp only [List.set_cons_succ, effort] at later ⊢
      omega

/-- Readers that start come nearer to their end, unless none had to be started. -/
theorem effort_started (lanes : List Lane) :
    lanes.map started = lanes ∨ effort (lanes.map started) < effort lanes := by
  -- One reader that has not started is enough for the sum to fall.
  induction lanes with
  | nil => exact .inl rfl
  | cons lane rest ih =>
    by_cases unborn : lane.reader = .unborn
    · right
      have later : effort (rest.map started) ≤ effort rest :=
        ih.elim (fun same => Nat.le_of_eq (congrArg effort same)) Nat.le_of_lt
      simp only [effort, List.map_cons, started, unborn, if_true, ReaderPlace.effort] at later ⊢
      omega
    · have same : lane.started = lane := if_neg unborn
      rcases ih with all | less
      · exact .inl (by rw [List.map_cons, same, all])
      · right
        simp only [effort, List.map_cons, same] at less ⊢
        omega

/-- Taking from a queue leaves its reader where it is. -/
@[simp] theorem taken_reader (lane : Lane) : lane.taken.2.reader = lane.reader := by
  unfold taken
  split
  · rfl
  · split <;> rfl

/-- Dropping the queues leaves the readers where they are. -/
@[simp] theorem effort_cleared (lanes : List Lane) : effort (lanes.map cleared) = effort lanes := by
  induction lanes with
  | nil => rfl
  | cons lane rest ih => rw [List.map_cons, effort, effort, ih, cleared]

/-- After a stop every action brings a reader nearer to its end. -/
theorem effort_readerStep {closed : Bool} (stepped : lane.readerStep? false closed = some next) :
    next.reader.effort < lane.reader.effort := by
  -- A reader that stands before its end goes one place on, wherever it is.
  unfold readerStep? at stepped
  split at stepped
  · cases stepped
  · cases stepped
  · rename_i place
    obtain rfl : _ = next := by simpa only [Option.some.injEq] using stepped
    simp [place, ReaderPlace.effort]
  · rename_i place
    split at stepped
    · obtain rfl : _ = next := by simpa only [Option.some.injEq] using stepped
      simp [place, ReaderPlace.effort]
    · split at stepped
      · cases stepped
      · obtain rfl : _ = next := by simpa only [Option.some.injEq] using stepped
        simp [place, ReaderPlace.effort]
  · rename_i place
    split at stepped
    all_goals
      obtain rfl : _ = next := by simpa only [Option.some.injEq] using stepped
      simp [place, ReaderPlace.effort]

/-- A reader that has something to do can do it, unless its source holds it up. -/
theorem readerStep_of_present (active closed : Bool) (present : lane.reader ≠ .done)
    (born : lane.reader ≠ .unborn) (free : ¬ lane.isHeldUp) :
    ∃ next, lane.readerStep? active closed = some next := by
  -- Of the places where a reader acts, only that of a line is held up by the source.
  unfold readerStep?
  split
  · exact absurd ‹_› born
  · exact absurd ‹_› present
  · exact ⟨_, rfl⟩
  · rename_i place
    split
    · exact ⟨_, rfl⟩
    · rename_i ended
      have ends : lane.held ≠ true := fun held => free ⟨place, ended, held⟩
      exact ⟨_, if_neg ends⟩
  · split <;> exact ⟨_, rfl⟩

end Lane

namespace Mux

variable {mux next : Mux} {move : Move}

/-- After a stop every action with an effect brings the mux nearer to its end. -/
theorem effort_lt (stopped : mux.active = false) (stepped : mux.Step move next)
    (effect : next ≠ mux) : next.effort < mux.effort := by
  -- The effort counts what the readers, the consumer and the wake-ups that are due have to do.
  cases stepped with
  | start =>
    rcases Lane.effort_started mux.lanes with same | less
    · exact absurd (by rw [same]) effect
    · simp only [effort, List.length_map]
      omega
  | reader found went =>
    rename_i source lane changed
    rw [stopped] at went
    have nearer := Lane.effort_readerStep went
    have total := Lane.effort_set found changed
    simp only [effort, List.length_set]
    omega
  | ask place | wakeUp place | timeOut place | join place =>
    simp only [effort, place, ConsumerPlace.effort]
    omega
  -- With the activity over, neither a wait nor a round can begin.
  | wait _ active | drain _ active => simp [stopped] at active
  | finish place | cancel place =>
    simp only [effort, close, place, ConsumerPlace.effort, Lane.effort_cleared]
    omega
  | take draining found =>
    rename_i slots lane
    -- One queue fewer is left to look at.
    have inside : slots.length < mux.lanes.length := (List.getElem?_eq_some_iff.mp found).1
    have total := Lane.effort_set found lane.taken.2
    rw [Lane.taken_reader] at total
    simp only [effort, draining, ConsumerPlace.effort, List.length_set, List.length_append,
      List.length_singleton]
    omega
  | deliver draining full | retry draining full =>
    simp only [effort, draining, ConsumerPlace.effort]
    omega
  | drop resting =>
    simp only [stopRequested_of_stopped stopped, effort, close, resting, ConsumerPlace.effort,
      Lane.effort_cleared]
    omega
  | requestStop => exact absurd (stopRequested_of_stopped stopped) effect
  | leaveWake owed =>
    simp only [effort, owed]
    omega

/-- After a stop the moves with an effect are bounded. -/
theorem length_le_of_works {moves : List Move} (stopped : mux.active = false)
    (works : mux.works moves) : moves.length ≤ mux.effort := by
  induction moves generalizing mux with
  | nil => exact Nat.zero_le _
  | cons move rest ih =>
    obtain ⟨next, moved, effect, works⟩ := works
    have stepped := step_of_move? moved
    -- Each move takes one off the effort at least.
    have nearer := effort_lt stopped stepped effect
    have later := ih ((Winds.refl stopped).step stepped).inactive works
    rw [List.length_cons]
    omega

/-- A stop that has returned leaves a wake-up, so that no wait blocks. -/
theorem wakeUp_of_returned (regular : mux.Regular) (stopped : mux.active = false)
    (returned : mux.wakesDue = 0) : mux.wake = true := by
  have wakes := regular.wakes
  simpa [returned, stopped] using wakes

/-- A wake-up that is there stays. -/
theorem wake_step (wake : mux.wake = true) (stepped : mux.Step move next) : next.wake = true := by
  -- Taking a wake-up moves the consumer and leaves the mark; only a new one is set.
  cases stepped with
  | drop | requestStop => exact mux.stopRequested_wake.trans wake
  | leaveWake => rfl
  | _ => exact wake

/-- A mux at rest keeps its consumer where it is. -/
theorem isAtRest.consumer_eq (rest : mux.isAtRest) (moved : mux.move? move = some next) :
    next.consumer = mux.consumer :=
  congrArg consumer (rest move next moved)

/-- The readers of a stopped mux at rest are gone, but for those whose source holds them up. -/
theorem isAtRest.reader_eq {lane : Lane} (rest : mux.isAtRest) (stopped : mux.active = false)
    (member : lane ∈ mux.lanes) : lane.reader = .done ∨ lane.isHeldUp := by
  -- A lane that could go on would make a move with an effect.
  obtain ⟨i, inside, rfl⟩ := List.getElem_of_mem member
  by_cases gone : mux.lanes[i].reader = .done
  · exact .inl gone
  by_cases heldUp : mux.lanes[i].isHeldUp
  · exact .inr heldUp
  exfalso
  by_cases unborn : mux.lanes[i].reader = .unborn
  · -- Starting the readers would have an effect.
    have same := congrArg lanes (rest .start _ rfl)
    have here : mux.lanes[i].started = mux.lanes[i] := by
      simpa [inside] using congrArg (·[i]?) same
    have reader := congrArg Lane.reader here
    simp [Lane.started, unborn] at reader
  · obtain ⟨next, went⟩ := Lane.readerStep_of_present false mux.closed gone unborn heldUp
    have moved : mux.move? (.reader i) = some { mux with lanes := mux.lanes.set i next } := by
      simp [move?, inside, stopped, went]
    have same := congrArg lanes (rest _ _ moved)
    have here : next = mux.lanes[i] := by simpa [inside] using congrArg (·[i]?) same
    have nearer := Lane.effort_readerStep went
    rw [here] at nearer
    exact Nat.lt_irrefl _ nearer

/-- A stopped mux comes to rest only when the consumer was told of the end, or waits for a reader
whose source holds it up. -/
theorem finished_of_isAtRest (regular : mux.Regular) (stopped : mux.active = false)
    (rest : mux.isAtRest) :
    mux.consumer = .finished ∨
      (mux.consumer = .joining ∧ ∃ lane ∈ mux.lanes, lane.isHeldUp) := by
  -- At every other place of the consumer some move has an effect.
  cases place : mux.consumer with
  | resting =>
    have moved : mux.move? .ask = some { mux with consumer := .checking } := by simp [move?, place]
    exact absurd (rest.consumer_eq moved) (by simp [place])
  | checking =>
    have moved : mux.move? .check = some mux.close := by simp [move?, place, stopped]
    exact absurd (rest.consumer_eq moved) (by simp [place, close])
  | waiting =>
    -- The wake-up is there, or the request that owes it can leave it.
    by_cases returned : mux.wakesDue = 0
    · have moved : mux.move? .wakeUp = some { mux with consumer := .woken } := by
        simp [move?, place, wakeUp_of_returned regular stopped returned]
      exact absurd (rest.consumer_eq moved) (by simp [place])
    · obtain ⟨due, owed⟩ := Nat.exists_eq_succ_of_ne_zero returned
      have moved : mux.move? .leaveWake = some { mux with wakesDue := due, wake := true } := by
        simp [move?, owed]
      exact absurd (congrArg wakesDue (rest _ _ moved)) (by simp [owed])
  | woken =>
    have moved : mux.move? .recheck = some mux.close := by simp [move?, place, stopped]
    exact absurd (rest.consumer_eq moved) (by simp [place, close])
  | draining slots =>
    rcases Nat.lt_or_eq_of_le (regular.slots slots place) with inside | full
    · have moved : mux.move? .take = some { mux with
          lanes := mux.lanes.set slots.length mux.lanes[slots.length].taken.2
          consumer := .draining (slots ++ [mux.lanes[slots.length].taken.1]) } := by
        simp [move?, place, inside]
      exact absurd (rest.consumer_eq moved) (by simp [place])
    · -- The last queue was looked at, so the consumer rests or looks again.
      cases filled : slots.any Option.isSome with
      | true =>
        have moved : mux.move? .settle = some { mux with
            consumer := .resting, rounds := mux.rounds ++ [⟨slots⟩] } := by
          simp only [move?, place, full, filled]
          simp
        exact absurd (rest.consumer_eq moved) (by simp [place])
      | false =>
        have moved : mux.move? .settle = some { mux with consumer := .checking } := by
          simp only [move?, place, full, filled]
          simp
        exact absurd (rest.consumer_eq moved) (by simp [place])
  | joining =>
    by_cases heldUp : ∃ lane ∈ mux.lanes, lane.isHeldUp
    · exact .inr ⟨rfl, heldUp⟩
    · have gone : ∀ lane ∈ mux.lanes, lane.reader = .done := fun lane member =>
        (rest.reader_eq stopped member).resolve_right fun this => heldUp ⟨lane, member, this⟩
      have moved : mux.move? .join = some { mux with consumer := .finished } := by
        simpa [move?, place] using gone
      exact absurd (rest.consumer_eq moved) (by simp [place])
  | finished => exact .inl rfl

/-- A stopped mux comes to rest when all parties go on. -/
theorem exists_rest (stopped : mux.active = false) :
    ∃ moves last, mux.moves? moves = some last ∧ last.isAtRest := by
  -- Every move with an effect lessens what is left to do.
  induction left : mux.effort using Nat.strongRecOn generalizing mux with
  | ind left ih =>
    by_cases rest : mux.isAtRest
    · exact ⟨[], mux, rfl, rest⟩
    · simp only [isAtRest, Classical.not_forall] at rest
      obtain ⟨move, next, moved, effect⟩ := rest
      have stepped := step_of_move? moved
      have nearer := effort_lt stopped stepped effect
      obtain ⟨moves, last, run, rest⟩ :=
        ih next.effort (by omega) ((Winds.refl stopped).step stepped).inactive rfl
      exact ⟨move :: moves, last, by simpa [moves?, moved] using run, rest⟩

/-- In every state after the activity ended, whatever all parties do: it does not come back; the one
wake-up of the request that ended it is due or there, and once it was left no wait blocks; the
rounds stay those given before, but for the one that was being assembled when the activity ended;
and all actions with an effect come to an end, where the consumer was told that there are no more
rounds, unless it waits for a reader whose source neither gives a line nor ends. -/
theorem stop_is_final (sources : List Source) (timed : Bool) (earlier later : List Move)
    (stopped last : Mux) (reached : (Mux.ofSources sources timed).moves? earlier = some stopped)
    (inactive : stopped.active = false) (run : stopped.moves? later = some last) :
    last.active = false ∧
    last.wakesDue + last.wake.toNat = 1 ∧
    (stopped.wakesDue = 0 → last.wake = true ∧
      (last.consumer = .waiting → ∃ next, last.move? .wakeUp = some next)) ∧
    (last.rounds = stopped.rounds ∨ ∃ begun more, stopped.consumer = .draining begun ∧
      last.rounds = stopped.rounds ++ [⟨begun ++ more⟩]) ∧
    (stopped.works later → later.length ≤ stopped.effort) ∧
    (∃ more ended, last.moves? more = some ended ∧ ended.isAtRest) ∧
    (last.isAtRest → last.consumer = .finished ∨
      (last.consumer = .joining ∧ ∃ lane ∈ last.lanes, lane.isHeldUp)) := by
  have regular := kept_by_moves Regular.step (Regular.ofSources sources timed) reached
  have winds := kept_by_moves Winds.step (Winds.refl inactive) run
  have regularAfter := kept_by_moves Regular.step regular run
  have wakes := regularAfter.wakes
  simp only [winds.inactive, Bool.not_false, Bool.toNat_true] at wakes
  refine ⟨winds.inactive, wakes, fun returned => ?_, ?_, length_le_of_works inactive,
    exists_rest winds.inactive, finished_of_isAtRest regularAfter winds.inactive⟩
  · have wake := kept_by_moves wake_step (wakeUp_of_returned regular inactive returned) run
    exact ⟨wake, fun waiting => ⟨{ last with consumer := .woken }, by simp [move?, waiting, wake]⟩⟩
  · rcases winds.rounds with ⟨same, -⟩ | ⟨begun, more, draining, one, -⟩
    · exact .inl same
    · exact .inr ⟨begun, more, draining, one⟩

/-- Lines are queued and the consumer waits when two requests stop it; it is told of the end. -/
theorem stop_is_final_while_waiting :
    let sources : List Source := [⟨['a'], [['x'], ['y']], false⟩, ⟨['b'], [['z']], false⟩]
    let earlier : List Move :=
      [.start, .ask, .check, .reader 0, .reader 0, .reader 0, .reader 1, .reader 1, .reader 1,
       .requestStop, .leaveWake]
    let later : List Move := [.requestStop, .reader 1, .wakeUp, .recheck, .reader 0, .join]
    ∃ stopped last, (Mux.ofSources sources false).moves? earlier = some stopped ∧
      stopped.active = false ∧ stopped.moves? later = some last ∧
      last.consumer = .finished ∧ last.wake = true ∧ last.rounds = [] := by
  intro sources earlier later
  have reaches : ((Mux.ofSources sources false).moves? earlier).any (fun mux =>
      !mux.active && mux.wakesDue == 0 && mux.consumer == .waiting && mux.rounds.isEmpty &&
        (mux.moves? later).any (·.consumer == .finished)) = true := by
    decide +kernel
  obtain ⟨stopped, reached, at_stop⟩ := (Option.any_eq_true _ _).mp reaches
  simp only [Bool.and_eq_true, Bool.not_eq_true', beq_iff_eq, List.isEmpty_iff] at at_stop
  obtain ⟨⟨⟨⟨inactive, returned⟩, waiting⟩, noRounds⟩, ends⟩ := at_stop
  obtain ⟨last, run, finished⟩ := (Option.any_eq_true _ _).mp ends
  obtain ⟨-, -, wake, rounds, -⟩ :=
    stop_is_final sources false earlier later stopped last reached inactive run
  refine ⟨stopped, last, reached, inactive, run, by simpa using finished, (wake returned).1, ?_⟩
  -- The consumer was not assembling a round when it was stopped.
  rcases rounds with same | ⟨begun, more, draining, -⟩
  · exact same.trans noRounds
  · simp [waiting] at draining

end Mux

end IdlScout
