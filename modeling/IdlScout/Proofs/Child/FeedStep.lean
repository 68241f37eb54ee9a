import IdlScout.Child.Feed
import IdlScout.Proofs.Streams.Step

/-! The moves of a feed as a relation that says all that each of them can do. -/

namespace IdlScout

/-- The forwarder writes a line that it keeps the input for. -/
def FeedMove.isWrite : FeedMove → Bool
  | .accept _ | .refuse _ | .endLine => true
  | _ => false

/-- A stop request does its next part. -/
def FeedMove.isStop : FeedMove → Bool
  | .requestStop | .closeInput | .markEnd | .tellSources => true
  | _ => false

namespace Feed

/-- The one action that a move performs, with what must hold for it and the state after it. -/
inductive Step (feed : Feed) : FeedMove → Feed → Prop where
  | pipe (message : Option Text) : Step feed (.pipe message) (feed.hand message)
  | source {move : Move} {source : Mux} (noStop : move ≠ .requestStop) (noDrop : move ≠ .drop)
      (stepped : feed.source.Step move source) :
      Step feed (.source move) { feed with source }
  | collect {round : Round} (asking : feed.place = .asking)
      (found : feed.source.rounds[feed.taken]? = some round) :
      Step feed .collect
        { feed with place := .holding (roundLines round), taken := feed.taken + 1 }
  | exhaust (asking : feed.place = .asking) (all : feed.taken = feed.source.rounds.length)
      (finished : feed.source.consumer = .finished) :
      Step feed .exhaust { feed with place := .closing none }
  | ask (holding : feed.place = .holding []) : Step feed .turn { feed with place := .asking }
  | skip {rest : List Text} (holding : feed.place = .holding ([] :: rest)) :
      Step feed .turn { feed with place := .holding rest }
  | lock {line : Text} {rest : List Text} (holding : feed.place = .holding (line :: rest))
      (nonempty : line ≠ []) (isOpen : feed.isOpen = true) :
      Step feed .turn { feed with place := .writing (lineBytes line) rest }
  | giveUp {line : Text} {rest : List Text} (holding : feed.place = .holding (line :: rest))
      (nonempty : line ≠ []) (shut : feed.isOpen = false) :
      Step feed .turn { feed with place := .closing none }
  | accept {count : Nat} {left : Bytes} {rest : List Text}
      (writing : feed.place = .writing left rest) (present : feed.gone = false)
      (some : count ≠ 0) (within : count ≤ left.length) :
      Step feed (.accept count) { feed with
        place := .writing (left.drop count) rest
        written := feed.written ++ left.take count }
  | refuse {left : Bytes} {rest : List Text} (writing : feed.place = .writing left rest)
      (fault : WriteFault) : Step feed (.refuse fault) { feed with place := .closing (some fault) }
  | endLine {rest : List Text} (writing : feed.place = .writing [] rest) :
      Step feed .endLine { feed with place := .holding rest }
  | close {fault : Option WriteFault} (closing : feed.place = .closing fault) :
      Step feed .close { feed with place := .done (loud fault), isOpen := false }
  | childEnds : Step feed .childEnds { feed with gone := true }
  | requestStop (first : feed.stop = .none) : Step feed .requestStop { feed with stop := .asked }
  | requestAgain (again : feed.stop ≠ .none) : Step feed .requestStop feed
  | closeInput (asked : feed.stop = .asked) (free : feed.isLocked = false) :
      Step feed .closeInput { feed with stop := .closed, isOpen := false }
  | markEnd (closed : feed.stop = .closed) :
      Step feed .markEnd { feed.hand none with stop := .marked }
  | tellSources (marked : feed.stop = .marked) :
      Step feed .tellSources { feed with stop := .told, source := feed.source.stopRequested }

variable {feed next : Feed} {move : FeedMove}

/-- The forwarder turns to the line that comes next, unless it is empty or the input was closed, and
to the sources when there is none. -/
theorem Step.of_turn (moved : feed.move? .turn = some next) : feed.Step .turn next := by
  simp only [move?] at moved
  -- The forwarder turns only with lines at hand; an empty one is passed over.
  split at moved
  · next holding =>
    obtain rfl : _ = next := Option.some.inj moved
    exact .ask holding
  · next line rest holding =>
    split at moved
    · next empty =>
      obtain rfl : _ = next := Option.some.inj moved
      obtain rfl : line = [] := by simpa using empty
      exact .skip holding
    · -- Whether the input is open is seen when the line is turned to, and not again before its end.
      next nonempty =>
      split at moved
      · next isOpen =>
        obtain rfl : _ = next := Option.some.inj moved
        exact .lock holding (by simpa using nonempty) isOpen
      · next shut =>
        obtain rfl : _ = next := Option.some.inj moved
        exact .giveUp holding (by simpa using nonempty) (by simpa using shut)
  · cases moved

/-- A line that is written loses bytes to the input, fails, or is at its end. -/
theorem Step.of_write (writes : move.isWrite = true) (moved : feed.move? move = some next) :
    feed.Step move next := by
  cases move with
  | accept count =>
    simp only [move?] at moved
    split at moved
    · next left rest writing =>
      split at moved
      · cases moved
      · -- The child reads, and takes a part that is there.
        next takes =>
        simp only [Bool.or_eq_true, decide_eq_true_eq, not_or, Bool.not_eq_true,
          Nat.not_lt] at takes
        obtain rfl : _ = next := Option.some.inj moved
        exact .accept writing takes.1.1 takes.1.2 takes.2
    · cases moved
  | refuse fault =>
    simp only [move?] at moved
    -- A fault can come at any byte of the line.
    split at moved
    · next left rest writing =>
      obtain rfl : _ = next := Option.some.inj moved
      exact .refuse writing fault
    · cases moved
  | endLine =>
    simp only [move?] at moved
    split at moved
    · -- Only a line with nothing left is at its end.
      next rest writing =>
      obtain rfl : _ = next := Option.some.inj moved
      exact .endLine writing
    · cases moved
  | _ => cases writes

/-- The parts of a stop request come one after the other; only the first one closes the input, and
not while a line is written. -/
theorem Step.of_stop (stops : move.isStop = true) (moved : feed.move? move = some next) :
    feed.Step move next := by
  cases move with
  | requestStop =>
    -- A second request finds the first one's mark.
    simp only [move?] at moved
    split at moved
    · next first =>
      obtain rfl : _ = next := Option.some.inj moved
      exact .requestStop first
    · next again =>
      obtain rfl : _ = next := Option.some.inj moved
      exact .requestAgain again
  | closeInput =>
    -- The input is free unless a line is written.
    simp only [move?, Option.ite_none_right_eq_some, Bool.and_eq_true, decide_eq_true_eq,
      Bool.not_eq_true', Option.some.injEq] at moved
    obtain ⟨⟨asked, free⟩, rfl⟩ := moved
    exact .closeInput asked free
  | markEnd =>
    simp only [move?, Option.ite_none_right_eq_some, Option.some.injEq] at moved
    obtain ⟨closed, rfl⟩ := moved
    exact .markEnd closed
  | tellSources =>
    simp only [move?, Option.ite_none_right_eq_some, Option.some.injEq] at moved
    obtain ⟨marked, rfl⟩ := moved
    exact .tellSources marked
  | _ => cases stops

/-- A possible move performs exactly one of the actions. -/
theorem step_of_move? (moved : feed.move? move = some next) : feed.Step move next := by
  -- The forwarder's moves are told apart by its place, those of a stop by how far it has come.
  cases move with
  -- The moves on lines and those of a stop have lemmas of their own; the rest are told apart here.
  | turn => exact .of_turn moved
  | accept | refuse | endLine => exact .of_write rfl moved
  | requestStop | closeInput | markEnd | tellSources => exact .of_stop rfl moved
  | pipe message =>
    obtain rfl : _ = next := Option.some.inj moved
    exact .pipe message
  | source move =>
    simp only [move?, Option.bind_eq_bind, Option.pure_def] at moved
    split at moved
    · -- The sources are not stopped past the feed.
      simp at moved
    · simp at moved
    · next noStop noDrop =>
      simp only [Bool.false_eq_true, if_false, Option.bind_eq_some_iff, Option.some.injEq] at moved
      obtain ⟨source, stepped, rfl⟩ := moved
      exact .source noStop noDrop (Mux.step_of_move? stepped)
  | collect =>
    simp only [move?] at moved
    split at moved
    · next round asking found =>
      obtain rfl : _ = next := Option.some.inj moved
      exact .collect asking found
    · cases moved
  | exhaust =>
    simp only [move?, Option.ite_none_right_eq_some, Bool.and_eq_true, decide_eq_true_eq,
      Option.some.injEq] at moved
    obtain ⟨⟨⟨asking, all⟩, finished⟩, rfl⟩ := moved
    exact .exhaust asking all finished
  | close =>
    simp only [move?] at moved
    split at moved
    · next fault closing =>
      obtain rfl : _ = next := Option.some.inj moved
      exact .close closing
    · cases moved
  | childEnds =>
    obtain rfl : _ = next := Option.some.inj moved
    exact .childEnds

/-- A run begins with its first move. -/
theorem moves?_cons {last : Feed} {rest : List FeedMove} :
    feed.moves? (move :: rest) = some last ↔
      ∃ next, feed.move? move = some next ∧ next.moves? rest = some last := by
  simp [moves?, Option.bind_eq_some_iff]

end Feed
end IdlScout
