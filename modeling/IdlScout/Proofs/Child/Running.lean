import IdlScout.Child.Live
import IdlScout.Proofs.Streams.Schedule

/-! The output of a program that runs comes to the streams of its child as messages that are handed
in one by one. -/

namespace IdlScout

/-- Lines and, if they end with them, the end. -/
def messagesOf (ended : Bool) (lines : List Text) : List (Option Text) :=
  lines.map some ++ if ended then [none] else []

/-- Lines that come to a source at once could as well be handed in one by one. -/
theorem Lane.supply_eq {lane : Lane} {fresh : List Text} (ended : Bool)
    (listens : lane.held = true ∨ fresh = []) :
    lane.supply ended fresh = (messagesOf ended fresh).foldl Lane.hand lane := by
  induction fresh generalizing lane with
  | nil =>
    -- Only the end may come, which a source that has ended takes no notice of.
    obtain ⟨id, ahead, held, reader, queue, live⟩ := lane
    cases ended <;> cases held <;> simp [supply, messagesOf, hand]
  | cons line rest ih =>
    -- A source that gets a line has not ended, and the line does not end it.
    have held : lane.held = true := listens.resolve_right (by simp)
    have first : lane.hand (some line) = { lane with ahead := lane.ahead ++ [line] } := by
      simp [hand, held]
    rw [messagesOf, List.map_cons, List.cons_append, List.foldl_cons, first]
    refine Eq.trans ?_ (ih (.inl held))
    simp [supply]

/-- Messages to one source change its lane alone. -/
theorem Mux.foldl_hand (mux : Mux) (source : Nat) (messages : List (Option Text)) :
    messages.foldl (fun mux message => mux.hand source message) mux =
      { mux with
        lanes := mux.lanes.modify source fun lane => messages.foldl Lane.hand lane } := by
  -- By induction on the messages: two changes of one lane are one.
  induction messages generalizing mux with
  | nil =>
    have same : mux.lanes.modify source (fun lane => lane) = mux.lanes := List.modify_id source _
    simp only [List.foldl_nil, same]
  | cons message rest ih =>
    rw [List.foldl_cons, ih]
    simp only [hand, List.modify_modify_eq, Function.comp_def, List.foldl_cons]

namespace Shell.State

/-- A program that has ended does nothing more. -/
theorem run_of_ended {state : State} (ended : state.ending.isSome = true) : state.run = state := by
  -- Within no tasks at all even a program that has ended would be taken for one that runs away.
  show runWithin (999999 + 1) state = state
  simp [runWithin, ended]

/-- A later state of a program: one that has ended stays so, with what it wrote. -/
structure Outlasts (state later : State) : Prop where
  ending : state.ending.isSome = true → later.ending.isSome = true
  written : state.ending.isSome = true → later.written = state.written
  complaints : state.ending.isSome = true → later.complaints = state.complaints

theorem Outlasts.refl (state : State) : state.Outlasts state :=
  ⟨id, fun _ => rfl, fun _ => rfl⟩

/-- Running leaves a program alone that has ended. -/
theorem outlasts_run (state : State) : state.Outlasts state.run where
  ending ended := by rw [run_of_ended ended, ended]
  written ended := by rw [run_of_ended ended]
  complaints ended := by rw [run_of_ended ended]

/-- A wait writes nothing. -/
theorem outlasts_wake (state : State) : state.Outlasts state.wake := by
  unfold wake
  split <;> exact ⟨id, fun _ => rfl, fun _ => rfl⟩

/-- A signal may end a program, and writes nothing. -/
theorem outlasts_signal (state : State) (number : Signal) :
    state.Outlasts (state.signal number) := by
  unfold signal
  split
  · split
    · exact ⟨fun _ => rfl, fun _ => rfl, fun _ => rfl⟩
    · split <;> exact ⟨id, fun _ => rfl, fun _ => rfl⟩
  · split
    · exact ⟨id, fun _ => rfl, fun _ => rfl⟩
    · exact ⟨fun _ => rfl, fun _ => rfl, fun _ => rfl⟩

theorem Outlasts.trans {first middle last : State} (before : first.Outlasts middle)
    (after : middle.Outlasts last) : first.Outlasts last where
  ending ended := after.ending (before.ending ended)
  written ended := (after.written (before.ending ended)).trans (before.written ended)
  complaints ended := (after.complaints (before.ending ended)).trans (before.complaints ended)

end Shell.State

namespace LiveChild

variable {live next : LiveChild}

/-- A child whose end was not collected yet: its streams end when its end is noted, and then all
that its program wrote was passed on. -/
structure Watched (live : LiveChild) : Prop where
  uncollected : live.process.custody.collected = false
  held : live.process.output.lanes.map Lane.held =
    [live.process.status.isNone, live.process.status.isNone]
  passed : ∃ first second, live.passed = [first, second]
  spent : live.process.status.isSome = true → live.program.ending.isSome = true ∧
    live.passed = [live.program.written, live.program.complaints].map
      fun content => (linesSoFar true content).length

namespace Watched

/-- What changes neither the sources nor what a program that has ended wrote leaves the child
watched. -/
theorem stay (watched : live.Watched)
    (held : next.process.output.lanes.map Lane.held = live.process.output.lanes.map Lane.held)
    (status : next.process.status = live.process.status)
    (custody : next.process.custody = live.process.custody) (passed : next.passed = live.passed)
    (outlasts : live.program.Outlasts next.program) : next.Watched where
  -- A program that has ended writes no more, so what holds of its streams goes on to hold.
  uncollected := by rw [custody, watched.uncollected]
  held := by rw [held, status, watched.held]
  passed := passed ▸ watched.passed
  spent ended := by
    rw [status] at ended
    obtain ⟨ending, all⟩ := watched.spent ended
    rw [passed, outlasts.written ending, outlasts.complaints ending]
    exact ⟨outlasts.ending ending, all⟩

/-- What the program wrote since the last time is handed to the two streams. -/
theorem passOn (watched : live.Watched) :
    live.passOn.Watched ∧ ∃ first second : List (Option Text),
      live.passOn.process.output = second.foldl (fun output message => output.hand 1 message)
        (first.foldl (fun output message => output.hand 0 message) live.process.output) := by
  -- The child has two streams, and both ended with its status.
  obtain ⟨first, second, passed⟩ := watched.passed
  have held := watched.held
  simp only [List.map_eq_cons_iff, List.map_eq_nil_iff] at held
  obtain ⟨out, _, lanes, heldOut, err, _, rfl, heldErr, rfl⟩ := held
  let ended := live.program.ending.isSome
  let lines := linesSoFar ended
  have whole : live.passOn = { live with
      passed := [(lines live.program.written).length, (lines live.program.complaints).length]
      process := { live.process with
        output := { live.process.output with lanes := [
          out.supply ended ((lines live.program.written).drop first),
          err.supply ended ((lines live.program.complaints).drop second)] }
        status := live.program.ending } } := by
    simp [LiveChild.passOn, lanes, passed, ended, lines]
  -- A stream whose end was handed in gets no line after it.
  have listens {lane : Lane} (isHeld : lane.held = live.process.status.isNone) {content : Bytes}
      {count : Nat} (all : live.process.status.isSome = true →
        count = (linesSoFar true content).length) :
      lane.held = true ∨ (lines content).drop count = [] := by
    cases status : live.process.status with
    | none => exact .inl (by simp [isHeld, status])
    | some _ =>
      have spent : live.process.status.isSome = true := by simp [status]
      have same : ended = true := (watched.spent spent).1
      exact .inr (by simp [all spent, lines, same])
  -- Both streams end when the end of the program is noted.
  have ends {lane : Lane} (isHeld : lane.held = live.process.status.isNone) (fresh : List Text) :
      (lane.supply ended fresh).held = live.program.ending.isNone := by
    have shape : (lane.supply ended fresh).held = (live.process.status.isNone && !ended) := by
      rw [Lane.supply, isHeld]
    rw [shape]
    cases ending : live.program.ending with
    | some _ => simp [ended, ending]
    | none =>
      -- The end of a program that goes on was not noted before.
      cases status : live.process.status with
      | none => simp [ended, ending]
      | some _ => simpa [ending] using (watched.spent (by simp [status])).1
  refine ⟨?_, messagesOf ended ((lines live.program.written).drop first),
    messagesOf ended ((lines live.program.complaints).drop second), ?_⟩
  · rw [whole]
    refine ⟨watched.uncollected,
      by simp only [List.map_cons, List.map_nil, ends heldOut, ends heldErr], ⟨_, _, rfl⟩,
      fun ending => ⟨ending, ?_⟩⟩
    have same : ended = true := ending
    simp [lines, same]
  · have counts (spent : live.process.status.isSome = true) := (watched.spent spent).2
    -- A stream that ended before was handed everything, and gets nothing now.
    rw [whole, Mux.foldl_hand, Mux.foldl_hand]
    simp only [passed, List.map_cons, List.map_nil, List.cons.injEq, and_true] at counts
    rw [Lane.supply_eq ended (listens heldOut fun spent => (counts spent).1),
      Lane.supply_eq ended (listens heldErr fun spent => (counts spent).2)]
    simp [lanes]

/-- While a child is watched its program goes on, and writes to the two streams. -/
theorem go (watched : live.Watched) :
    live.go.Watched ∧ ∃ first second : List (Option Text),
      live.go.process.output = second.foldl (fun output message => output.hand 1 message)
        (first.foldl (fun output message => output.hand 0 message) live.process.output) := by
  -- Input, signals and waits change neither the streams nor what a program that has ended wrote.
  have given : live.giveInput.Watched :=
    watched.stay rfl rfl rfl rfl ⟨id, fun _ => rfl, fun _ => rfl⟩
  have ready : live.giveInput.endPause.Watched ∧
      live.giveInput.endPause.process = live.giveInput.process := by
    unfold endPause
    split
    · exact ⟨given, rfl⟩
    · split
      · exact ⟨given.stay rfl rfl rfl rfl (Shell.State.outlasts_wake _), rfl⟩
      · exact ⟨given.stay rfl rfl rfl rfl
          ((Shell.State.outlasts_signal _ _).trans (Shell.State.outlasts_wake _)), rfl⟩
  obtain ⟨ready, same⟩ := ready
  have output : live.giveInput.endPause.process.output = live.process.output :=
    (congrArg ChildProcess.output same).trans rfl
  rw [← output]
  have ran : LiveChild.Watched { live.giveInput.endPause with
      program := live.giveInput.endPause.program.run } :=
    ready.stay rfl rfl rfl rfl (Shell.State.outlasts_run _)
  exact ran.passOn

end Watched
end LiveChild
end IdlScout
