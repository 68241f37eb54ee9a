import IdlScout.Proofs.Child.FeedSchedule
import IdlScout.Proofs.Child.Writing

/-! What a writer does to lines that are forwarded to it by themselves is among what the forwarder
can do while others hand in lines, stop it or end the child. -/

namespace IdlScout

/-- Where the forwarder stands after an attempt to write: at a place to go on from, or about to
close the input after a failure. -/
def Writer.Attempt.place (attempt : Writer.Attempt) (onward : FeedPlace) : FeedPlace :=
  match attempt.result with
  | .ok () => onward
  | .error fault => .closing (some fault)

namespace Feed

/-- A feed whose forwarder stands at a place, with some bytes written. -/
def standing (feed : Feed) (place : FeedPlace) (written : Bytes) : Feed :=
  { feed with place, written }

variable {feed : Feed} {bytes more written : Bytes} {lines rest : List Text}

/-- An attempt can be made by moves, from one place to another. -/
def CanMake (feed : Feed) (attempt : Writer.Attempt) (start onward : FeedPlace) : Prop :=
  ∀ written, (feed.standing start written).Reaches
    (feed.standing (attempt.place onward) (written ++ attempt.taken))

/-- Where an attempt without an operation starts it ends. -/
theorem CanMake.none (writer : Writer) (place : FeedPlace) :
    feed.CanMake ⟨.ok (), writer, []⟩ place place := by
  intro written
  simpa [Writer.Attempt.place, Writer.Attempt.taken] using
    Reaches.refl (feed.standing place written)

/-- A move that takes the bytes of an operation leads to the rest of the attempt. -/
theorem CanMake.after {attempt : Writer.Attempt} {start between onward : FeedPlace}
    (later : feed.CanMake attempt between onward) (call : WriteCall)
    (takes : ∀ written, (feed.standing start written).Reaches
      (feed.standing between (written ++ call.taken))) :
    feed.CanMake (attempt.after call) start onward := by
  intro written
  have both := (takes written).trans (later _)
  simpa [Writer.Attempt.after, Writer.Attempt.taken, Writer.Attempt.place] using both

/-- Two attempts can be made one after the other. -/
theorem CanMake.andThen {first : Writer.Attempt} {next : Writer → Writer.Attempt}
    {start between onward : FeedPlace} (before : feed.CanMake first start between)
    (later : ∀ left, feed.CanMake (next left) between onward) :
    feed.CanMake (first.andThen next) start onward := by
  intro written
  have earlier := before written
  -- After a failure nothing more is attempted, and the forwarder stands at its end.
  cases outcome : first.result with
  | error fault =>
    rw [Writer.Attempt.andThen_of_error outcome]
    simpa only [Writer.Attempt.place, outcome] using earlier
  | ok =>
    rw [Writer.Attempt.andThen_of_ok outcome]
    simp only [Writer.Attempt.place, outcome] at earlier
    have both := earlier.trans (later first.writer _)
    simpa only [Writer.Attempt.place, Writer.Attempt.taken, List.flatMap_append,
      List.append_assoc] using both

/-- An operation that fails while a line is written ends the attempt. -/
theorem CanMake.of_fault {left : Bytes} {call : WriteCall} (nothing : call.taken = [])
    (fault : WriteFault) (writer : Writer) (onward : FeedPlace) :
    feed.CanMake ⟨.error fault, writer, [call]⟩ (.writing left rest) onward := by
  intro written
  have refused : (feed.standing (.writing left rest) written).move? (.refuse fault) =
      some (feed.standing (.closing (some fault)) written) := rfl
  simpa [Writer.Attempt.place, Writer.Attempt.taken, nothing] using Reaches.of_move refused

/-- The input takes some of the bytes that the forwarder has to write. -/
theorem reaches_of_takes (present : feed.gone = false) (nonempty : bytes ≠ []) {count : Nat}
    (some : count ≠ 0) (more : Bytes) (rest : List Text) (written : Bytes) :
    (feed.standing (.writing (bytes ++ more) rest) written).Reaches
      (feed.standing (.writing (bytes.drop count ++ more) rest) (written ++ bytes.take count)) := by
  have positive : min count bytes.length ≠ 0 := by
    have := List.length_pos_iff.mpr nonempty
    omega
  have within : ¬ (bytes ++ more).length < min count bytes.length := by
    rw [List.length_append]
    omega
  -- A move takes no more than there is.
  have accepted : (feed.standing (.writing (bytes ++ more) rest) written).move?
      (.accept (min count bytes.length)) = .some (feed.standing
        (.writing (bytes.drop count ++ more) rest) (written ++ bytes.take count)) := by
    simp only [move?, standing, present, positive, within, decide_false, Bool.or_self,
      Bool.false_eq_true, if_false]
    rw [List.drop_append_of_le_length (Nat.min_le_right _ _),
      List.take_append_of_le_length (Nat.min_le_right _ _), ← List.drop_eq_drop_min,
      ← List.take_eq_take_min]
  exact .of_move accepted

/-- Bytes that the forwarder has to write can be written as a writer takes them. -/
theorem canMake_writeAll (present : feed.gone = false) (more : Bytes) (rest : List Text)
    (writer : Writer) (bytes : Bytes) :
    feed.CanMake (writer.writeAll bytes) (.writing (bytes ++ more) rest) (.writing more rest) := by
  -- Every operation that takes bytes or fails is a move; an interruption is none.
  fun_induction Writer.writeAll writer bytes with
  | case1 writer => exact .none writer _
  | case2 bytes nonempty =>
    refine (CanMake.none [] _).after ⟨.write bytes, .takes bytes.length⟩ fun written => ?_
    have taken := reaches_of_takes present nonempty
      (List.length_pos_iff.mpr nonempty |> Nat.ne_of_gt) more rest written
    rwa [List.drop_length, List.nil_append] at taken
  | case3 fault others bytes _ call interrupted ih =>
    exact ih.after _ fun written => (List.append_nil written).symm ▸ .refl _
  | case4 fault others bytes => exact .of_fault rfl fault others _
  | case5 others bytes => exact .of_fault rfl _ others _
  | case6 count others bytes nonempty some ih =>
    exact ih.after ⟨.write bytes, .takes count⟩ (reaches_of_takes present nonempty some more rest)

/-- A line that the forwarder has to write can be written as a writer takes it. -/
theorem canMake_writeLine (present : feed.gone = false) (rest : List Text) (writer : Writer)
    (line : Text) :
    feed.CanMake (writer.writeLine line) (.writing (lineBytes line) rest) (.holding rest) := by
  -- The text is written with the line feed still ahead, and the line feed with nothing ahead.
  have text := canMake_writeAll present [10] rest writer (Utf8.encode line)
  refine (text.andThen fun left => canMake_writeAll present [] rest left [10]).andThen
    fun left => ?_
  -- The line is done when it was passed on.
  have ended (written : Bytes) : (feed.standing (.writing [] rest) written).Reaches
      (feed.standing (.holding rest) (written ++ [])) := by
    have passed : (feed.standing (.writing [] rest) written).move? .endLine =
        some (feed.standing (.holding rest) written) := by simp [move?, standing]
    rw [List.append_nil]
    exact .of_move passed
  rcases left with _ | ⟨count | fault, others⟩
  · exact (CanMake.none [] _).after ⟨.flush, .takes 0⟩ ended
  · exact (CanMake.none others _).after ⟨.flush, .takes count⟩ ended
  · exact .of_fault rfl fault others _

/-- Lines that the forwarder has at hand can be written as a writer takes them. -/
theorem canMake_writeLines (isOpen : feed.isOpen = true) (present : feed.gone = false)
    (writer : Writer) (lines : List Text) :
    feed.CanMake (writer.writeLines lines) (.holding lines) (.holding []) := by
  induction lines generalizing writer with
  | nil => exact .none writer _
  | cons line rest ih =>
    rw [Writer.writeLines]
    intro written
    -- An empty line is turned to and passed over; any other is locked and written.
    by_cases empty : line.isEmpty
    · rw [if_pos empty]
      have skipped : (feed.standing (.holding (line :: rest)) written).move? .turn =
          some (feed.standing (.holding rest) written) := by
        simp [move?, standing, empty]
      exact (Reaches.of_move skipped).trans (ih writer written)
    · rw [if_neg empty]
      have turned : (feed.standing (.holding (line :: rest)) written).move? .turn =
          some (feed.standing (.writing (lineBytes line) rest) written) := by
        simp [move?, standing, empty, isOpen]
      have line := canMake_writeLine present rest writer line
      exact (Reaches.of_move turned).trans (line.andThen ih written)

/-- Lines that the forwarder has at hand can be written to whatever writer its input is, with the
bytes that this takes; what it ends with after a failure is what forwarding them reports. -/
theorem reaches_forwardLines (isOpen : feed.isOpen = true) (present : feed.gone = false)
    (holding : feed.place = .holding lines) (writer : Writer) : ∃ next, feed.Reaches next ∧
      next.written = feed.written ++ (forwardLines (some writer) lines).taken ∧
      next.outcome = (forwardLines (some writer) lines).result := by
  have start : feed.standing (.holding lines) feed.written = feed := by
    rw [← holding, standing]
  have made := canMake_writeLines isOpen present writer lines feed.written
  rw [start] at made
  cases outcome : (writer.writeLines lines).result with
  | ok =>
    refine ⟨_, made, rfl, ?_⟩
    simp [standing, Writer.Attempt.place, outcome, Feed.outcome, forwardLines, quieten]
  | error fault =>
    -- A failure ends forwarding, and is told unless it is quiet.
    rw [Writer.Attempt.place, outcome] at made
    have closed (written : Bytes) :
        (feed.standing (.closing (some fault)) written).move? .close =
          some { feed.standing (.done (loud fault)) written with isOpen := false } := rfl
    refine ⟨_, made.trans (.of_move (closed _)), rfl, ?_⟩
    cases quiet : fault.isQuiet <;>
      simp [standing, Feed.outcome, forwardLines, quieten, loud, outcome, quiet, Option.filter]

end Feed
end IdlScout
