import IdlScout.Proofs.Streams.Schedule

/-! The queues are handed out once. A consumer that comes later is given none, and makes no round
whatever it does. -/

namespace IdlScout
namespace Mux

/-- A consumer that was given no queues. -/
structure Barren (mux : Mux) : Prop where
  lanes : mux.lanes = []
  unfilled : ∀ slots, mux.consumer = .draining slots → slots = []

namespace Barren

variable {mux next : Mux} {move : Move}

/-- A consumer in another place has no queues either. -/
theorem goTo {place : ConsumerPlace} (barren : mux.Barren)
    (unslotted : ∀ slots, place ≠ .draining slots) :
    ({ mux with consumer := place } : Mux).Barren :=
  ⟨barren.lanes, fun slots draining => absurd draining (unslotted slots)⟩

/-- A stop request gives it none. -/
theorem stopRequested (barren : mux.Barren) : mux.stopRequested.Barren :=
  ⟨by simpa using barren.lanes, by simpa using barren.unfilled⟩

/-- Without queues no action of any party makes a round. -/
theorem step (barren : mux.Barren) (stepped : mux.Step move next) :
    next.Barren ∧ next.rounds = mux.rounds := by
  -- Moves of readers and takes need a lane; the others leave the lanes and give the consumer none.
  cases stepped with
  | start => exact ⟨⟨by simp [barren.lanes], barren.unfilled⟩, rfl⟩
  | reader found => simp [barren.lanes] at found
  | ask | wait | wakeUp | timeOut | retry | join => exact ⟨barren.goTo (by simp), rfl⟩
  | finish | cancel => exact ⟨⟨by simp [close, barren.lanes], by simp [close]⟩, rfl⟩
  | drain => exact ⟨⟨barren.lanes, by simp⟩, rfl⟩
  | take draining found => simp [barren.lanes] at found
  | deliver draining full filled =>
    -- A round holds a line, and there is nowhere to take one from.
    simp [barren.unfilled _ draining] at filled
  | drop =>
    exact ⟨⟨by simp [close, barren.lanes], by simp [close]⟩, mux.stopRequested_rounds⟩
  | requestStop => exact ⟨barren.stopRequested, mux.stopRequested_rounds⟩
  | leaveWake => exact ⟨⟨barren.lanes, barren.unfilled⟩, rfl⟩

/-- Nor does any run of them. -/
theorem moves {later : List Move} (barren : mux.Barren) (run : mux.moves? later = some next) :
    next.Barren ∧ next.rounds = mux.rounds :=
  -- Both facts go along the run together, as the second is about each step's start.
  @kept_by_moves (fun last => last.Barren ∧ last.rounds = mux.rounds)
    (fun kept stepped => ⟨(kept.1.step stepped).1, (kept.1.step stepped).2.trans kept.2⟩)
    _ _ _ ⟨barren, rfl⟩ run

/-- What is handed to sources finds none. -/
theorem hand (barren : mux.Barren) (source : Nat) (message : Option Text) :
    (mux.hand source message).Barren :=
  ⟨by simp [Mux.hand, barren.lanes], barren.unfilled⟩

/-- The consumer of a second hand-out is given no queues. -/
theorem handOut (handed : mux.handedOut = true) : mux.handOut.Barren := by
  simp only [Mux.handOut, handed, if_true]
  exact ⟨rfl, by simp⟩

end Barren

variable {mux next : Mux} {move : Move}

/-- No action of a party hands the queues out. -/
theorem Step.handedOut_eq (stepped : mux.Step move next) : next.handedOut = mux.handedOut := by
  -- The flag is set where the queues are handed out, which is no action of a party.
  cases stepped with
  | drop | requestStop => exact mux.stopRequested_handedOut
  | _ => rfl

theorem moves_handedOut {moves : List Move} (run : mux.moves? moves = some next) :
    next.handedOut = mux.handedOut :=
  @kept_by_moves (fun last => last.handedOut = mux.handedOut)
    (fun kept stepped => stepped.handedOut_eq.trans kept) _ _ _ rfl run

/-- A stop request is a run of moves up to its return. -/
theorem stop_moves (mux : Mux) : ∃ moves, mux.moves? moves = some mux.stop := by
  unfold stop
  cases run : mux.moves? [.requestStop, .leaveWake] with
  -- A second request owes no wake-up, so the list of both moves is not possible.
  | none => exact ⟨[.requestStop], by simp [moves?, move?]⟩
  | some stopped => exact ⟨_, run⟩

/-- Giving up is one as well, if it does anything. -/
theorem giveUp_moves (mux : Mux) : ∃ moves, mux.moves? moves = some mux.giveUp := by
  unfold giveUp
  split
  · rename_i dropped moved
    -- Readers go first, since the consumer joins only readers that are gone.
    obtain ⟨left, -, run⟩ := (runReaders_serves dropped).1
    have whole : mux.moves? (.drop :: left) = some dropped.runReaders :=
      moves?_cons.mpr ⟨dropped, moved, run⟩
    dsimp only
    cases joined : dropped.runReaders.move? .join with
    | none => exact ⟨_, whole⟩
    | some ended =>
      refine ⟨.drop :: left ++ [.join], ?_⟩
      rw [moves?, List.foldlM_append]
      exact (congrArg (· >>= _) whole).trans (by simp [joined])
  · exact ⟨[], rfl⟩

end Mux
end IdlScout
