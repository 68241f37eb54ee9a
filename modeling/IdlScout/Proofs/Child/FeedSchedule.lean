import IdlScout.Proofs.Child.FeedStep
import IdlScout.Proofs.Streams.Schedule

/-! What is done with a child's input as a whole: asking for a round, forwarding, handing in lines
and stopping are runs of moves. -/

namespace IdlScout

namespace Feed

variable {feed next last : Feed}

/-- The second state comes from the first by some moves. -/
def Reaches (feed next : Feed) : Prop :=
  ∃ moves, feed.moves? moves = some next

namespace Reaches

theorem refl (feed : Feed) : feed.Reaches feed :=
  ⟨[], rfl⟩

theorem trans (before : feed.Reaches next) (after : next.Reaches last) : feed.Reaches last := by
  obtain ⟨earlier, run⟩ := before
  obtain ⟨later, runLater⟩ := after
  -- A run of the moves of both is the second after the first.
  refine ⟨earlier ++ later, ?_⟩
  rw [moves?, List.foldlM_append]
  exact (congrArg (· >>= _) run).trans runLater

theorem of_move {move : FeedMove} (moved : feed.move? move = some next) : feed.Reaches next :=
  ⟨[move], by simp [moves?, moved]⟩

/-- What the sources do by themselves are moves of the feed. -/
theorem of_serves {source : Mux} (serves : feed.source.Serves source) :
    feed.Reaches { feed with source } := by
  obtain ⟨moves, calm, run⟩ := serves
  -- A calm move of the sources is a move of the feed with the rest of it left alone.
  induction moves generalizing feed with
  | nil =>
    obtain rfl : feed.source = source := by simpa [Mux.moves?] using run
    exact .refl feed
  | cons move rest ih =>
    obtain ⟨middle, moved, run⟩ := Mux.moves?_cons.mp run
    obtain ⟨noStop, noDrop⟩ := calm move List.mem_cons_self
    have stepped : feed.move? (.source move) = some { feed with source := middle } := by
      cases move <;> simp_all [Feed.move?]
    have later : Reaches { feed with source := middle } { feed with source } :=
      ih (fun move member => calm move (List.mem_cons_of_mem _ member)) run
    exact (Reaches.of_move stepped).trans later

end Reaches

/-- Asking for a round is a run of moves. -/
theorem ask_reaches (feed : Feed) : feed.Reaches feed.ask :=
  .of_serves (Mux.next_serves feed.source).1

/-- The forwarder's own actions are moves, and so are those of the sources that it waits for. -/
theorem forwardFor_reaches (fuel : Nat) (feed : Feed) : feed.Reaches (forwardFor fuel feed) := by
  -- The forwarder asks for a round only where it waits for one; all else it does are its own moves.
  induction fuel generalizing feed with
  | zero => exact .refl feed
  | succ fuel ih =>
    have asked : feed.Reaches (if feed.place = .asking then feed.ask else feed) := by
      split
      · exact feed.ask_reaches
      · exact .refl feed
    unfold forwardFor
    generalize (if feed.place = .asking then feed.ask else feed) = ready at asked
    dsimp only
    split
    · exact asked
    · split
      · rename_i next moved
        exact (asked.trans (.of_move moved)).trans (ih next)
      · exact asked

theorem forward_reaches (feed : Feed) : feed.Reaches feed.forward :=
  forwardFor_reaches _ feed

theorem hand_reaches (feed : Feed) (message : Option Text) : feed.Reaches (feed.hand message) :=
  .of_move (show feed.move? (.pipe message) = _ from rfl)

/-- A stop request is a run of moves up to its return. -/
theorem halt_reaches (feed : Feed) : feed.Reaches feed.halt := by
  unfold halt
  -- The parts of a stop all happen, unless a stop was requested before or a line is being written.
  cases run : feed.moves?
      [.requestStop, .closeInput, .markEnd, .tellSources, .source .leaveWake] with
  | none => exact .refl feed
  | some halted => exact ⟨_, run⟩

end Feed

end IdlScout
