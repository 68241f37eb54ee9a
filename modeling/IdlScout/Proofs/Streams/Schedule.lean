import IdlScout.Proofs.Streams.Supply
import IdlScout.Streams.Schedule

/-! The schedule is a run of moves like any other. Whatever holds of all runs holds of it. -/

namespace IdlScout
namespace Mux

variable {mux next last : Mux} {move : Move}

/-- The second state comes from the first by moves of the readers and the consumer; nobody requests
a stop or gives up. -/
def Serves (mux next : Mux) : Prop :=
  ∃ moves : List Move, (∀ move ∈ moves, move ≠ .requestStop ∧ move ≠ .drop) ∧
    mux.moves? moves = some next

namespace Serves

theorem refl (mux : Mux) : mux.Serves mux :=
  ⟨[], by simp, rfl⟩

theorem trans (before : mux.Serves next) (after : next.Serves last) : mux.Serves last := by
  obtain ⟨earlier, calm, first⟩ := before
  obtain ⟨later, calmLater, second⟩ := after
  refine ⟨earlier ++ later, fun move member => ?_, ?_⟩
  · -- No move of either run is a stop or a drop, so none of both is.
    exact (List.mem_append.mp member).elim (calm move) (calmLater move)
  · rw [moves?, List.foldlM_append]
    exact (congrArg (· >>= _) first).trans second

theorem of_move (moved : mux.move? move = some next) (noStop : move ≠ .requestStop)
    (noDrop : move ≠ .drop) : mux.Serves next :=
  ⟨[move], by simp [noStop, noDrop], by simp [moves?, moved]⟩

/-- No source is given an end by it. -/
theorem held_eq (serves : mux.Serves next) :
    next.lanes.map Lane.held = mux.lanes.map Lane.held := by
  obtain ⟨moves, -, run⟩ := serves
  exact @kept_by_moves (fun later => later.lanes.map Lane.held = mux.lanes.map Lane.held)
    (fun same stepped => stepped.held_eq.trans same) _ _ _ rfl run

end Serves

/-- A reader's moves make no round. -/
theorem runReader_serves (source fuel : Nat) (mux : Mux) :
    mux.Serves (runReader source fuel mux) ∧ (runReader source fuel mux).rounds = mux.rounds := by
  -- The fuel bounds how often one reader moves; it may come to wait before.
  induction fuel generalizing mux with
  | zero => exact ⟨.refl mux, rfl⟩
  | succ fuel ih =>
    unfold runReader
    split
    · rename_i next moved
      have rounds : next.rounds = mux.rounds := by
        cases step_of_move? moved with
        | reader => rfl
      exact ⟨(Serves.of_move moved (by simp) (by simp)).trans (ih next).1,
        (ih next).2.trans rounds⟩
    · exact ⟨.refl mux, rfl⟩

/-- The readers' moves make no round. -/
theorem runReaders_serves (mux : Mux) :
    mux.Serves mux.runReaders ∧ mux.runReaders.rounds = mux.rounds := by
  -- Which readers go on, and how far, is fixed before the first of them moves.
  have each (lanes : List (Lane × Nat)) (mux : Mux) :
      let last := lanes.foldl (fun mux lane => runReader lane.2 (readerFuel lane.1) mux) mux
      mux.Serves last ∧ last.rounds = mux.rounds := by
    induction lanes generalizing mux with
    | nil => exact ⟨.refl mux, rfl⟩
    | cons lane rest ih =>
      obtain ⟨serves, rounds⟩ := runReader_serves lane.2 (readerFuel lane.1) mux
      obtain ⟨serves', rounds'⟩ := ih (runReader lane.2 (readerFuel lane.1) mux)
      exact ⟨serves.trans serves', rounds'.trans rounds⟩
  exact each _ mux

/-- The consumer neither requests a stop nor gives up by itself. -/
theorem consumerMove?_calm (chosen : mux.consumerMove? = some move) :
    move ≠ .requestStop ∧ move ≠ .drop := by
  -- In each place the consumer has one move at hand, and none of these is a stop or a drop.
  unfold consumerMove? at chosen
  cases place : mux.consumer with
  | waiting =>
    simp only [place, Option.ite_none_right_eq_some, Option.some.injEq] at chosen
    simp [← chosen.2]
  | draining slots =>
    simp only [place, Option.some.injEq] at chosen
    subst chosen
    split <;> simp
  | finished => simp [place] at chosen
  | _ =>
    simp only [place, Option.some.injEq] at chosen
    simp [← chosen]

/-- A move makes one round at most. -/
theorem Step.rounds_eq (stepped : mux.Step move next) :
    next.rounds = mux.rounds ∨ ∃ round, next.rounds = mux.rounds ++ [round] := by
  -- Only a full set of slots with a line among them makes a round.
  cases stepped with
  | deliver => exact .inr ⟨_, rfl⟩
  | drop | requestStop => exact .inl mux.stopRequested_rounds
  | _ => exact .inl rfl

/-- The consumer gets one round at most. -/
theorem runConsumer_serves (fuel : Nat) (mux : Mux) :
    mux.Serves (runConsumer fuel mux) ∧ ((runConsumer fuel mux).rounds = mux.rounds ∨
      ∃ round, (runConsumer fuel mux).rounds = mux.rounds ++ [round]) := by
  -- The consumer goes on until it has made a round or cannot move.
  induction fuel generalizing mux with
  | zero => exact ⟨.refl mux, .inl rfl⟩
  | succ fuel ih =>
    unfold runConsumer
    split
    · exact ⟨.refl mux, .inl rfl⟩
    · rename_i move chosen
      split
      · exact ⟨.refl mux, .inl rfl⟩
      · rename_i next moved
        obtain ⟨noStop, noDrop⟩ := consumerMove?_calm chosen
        have serves := Serves.of_move moved noStop noDrop
        split
        · exact ⟨serves, (step_of_move? moved).rounds_eq⟩
        · rename_i notMore
          -- Without a round more the move made none, so the first may come yet.
          have same : next.rounds = mux.rounds := by
            refine (step_of_move? moved).rounds_eq.resolve_right fun more => notMore ?_
            obtain ⟨round, added⟩ := more
            simp [added]
          rw [← same]
          exact ⟨serves.trans (ih next).1, (ih next).2⟩

/-- Asking once is a run of moves that gives one round at most. -/
theorem next_serves (mux : Mux) :
    mux.Serves mux.next ∧ (mux.next.rounds = mux.rounds ∨
      ∃ round, mux.next.rounds = mux.rounds ++ [round]) := by
  -- The readers make no round, so at most one round comes of both.
  obtain ⟨read, rounds⟩ := runReaders_serves mux
  obtain ⟨consumed, more⟩ := runConsumer_serves mux.runReaders.consumerFuel mux.runReaders
  rw [rounds] at more
  exact ⟨read.trans consumed, more⟩

end Mux
end IdlScout
