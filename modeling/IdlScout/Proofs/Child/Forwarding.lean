import IdlScout.Proofs.Child.FeedStep
import IdlScout.Proofs.Streams.Supply

/-! What reaches a child's input: the lines that were handed in before the first end, in order, each
of them whole unless a write fails. -/

namespace IdlScout

namespace FeedMove

/-- What a move hands in: a line, or the end of the lines. -/
def message? : FeedMove → Option (Option Text)
  | .pipe message => some message
  -- A stop request ends the lines as well.
  | .markEnd => some none
  | _ => none

/-- The lines that are handed in before the first end. -/
def handed (moves : List FeedMove) : List Text :=
  Source.handed (moves.filterMap message?)

/-- An end of the lines was handed in. -/
def ended (moves : List FeedMove) : Bool :=
  !(moves.filterMap message?).all Option.isSome

/-- A write failed. -/
def isRefusal : FeedMove → Bool
  | .refuse _ => true
  | _ => false

/-- No write failed. -/
def Smooth (moves : List FeedMove) : Prop :=
  ∀ move ∈ moves, move.isRefusal = false

instance (moves : List FeedMove) : Decidable (Smooth moves) :=
  inferInstanceAs (Decidable (∀ move ∈ moves, move.isRefusal = false))

/-- The source of lines that are handed in, after some moves. -/
def handedSource (moves : List FeedMove) : Source :=
  (moves.filterMap message?).foldl Source.hand ⟨"stdin-pipe".toList, [], true⟩

/-- The source has the lines before the first end, and ends with that. -/
theorem handedSource_eq (moves : List FeedMove) :
    handedSource moves = ⟨"stdin-pipe".toList, handed moves, !ended moves⟩ := by
  rw [handedSource, Source.foldl_hand _ rfl]
  simp [handed, ended]

/-- A move hands its message to the source, if it has one. -/
theorem handedSource_concat (past : List FeedMove) (move : FeedMove) :
    handedSource (past ++ [move]) =
      move.message?.toList.foldl Source.hand (handedSource past) := by
  cases speaks : move.message? <;> simp [handedSource, speaks]

/-- After an end nothing is handed in. -/
theorem handed_append (past later : List FeedMove) :
    handed (past ++ later) = handed past ++ if ended past then [] else handed later := by
  rw [handed, List.filterMap_append, Source.handed_append]
  cases all : (past.filterMap message?).all Option.isSome <;> simp [handed, ended, all]

/-- An end stays. -/
theorem ended_append {past : List FeedMove} (before : ended past = true)
    (later : List FeedMove) : ended (past ++ later) = true := by
  simp only [ended, List.filterMap_append, List.all_append, Bool.not_and,
    Bool.or_eq_true] at before ⊢
  exact .inl before

end FeedMove

namespace Feed

/-- The bytes of lines, without those of empty ones. -/
def bytesOf (lines : List Text) : Bytes :=
  (lines.filter fun line => !line.isEmpty).flatMap lineBytes

/-- The bytes of lines follow each other. -/
theorem bytesOf_append (before after : List Text) :
    bytesOf (before ++ after) = bytesOf before ++ bytesOf after := by
  simp [bytesOf]

/-- The lines of the rounds that the forwarder took. -/
def collected (feed : Feed) : List Text :=
  Round.linesOf 0 (feed.source.rounds.take feed.taken)

end Feed

/-- What is still to be written of the line at hand. -/
def FeedPlace.left : FeedPlace → Bytes
  | .writing left _ => left
  | _ => []

/-- Where the lines are that the forwarder took, and the bytes of those that it turned to. -/
def FeedPlace.Accounts (collected : List Text) (written : Bytes) : FeedPlace → Prop
  | .asking => written = Feed.bytesOf collected
  | .holding rest => ∃ turned, turned ++ rest = collected ∧ written = Feed.bytesOf turned
  | .writing left rest =>
    ∃ turned, turned ++ rest = collected ∧ written ++ left = Feed.bytesOf turned
  | .closing _ | .done _ => True

/-- What a forwarder leaves that has ended: whole lines unless a write failed, and all of them
unless a stop was requested too. -/
def FeedPlace.Leaves (moves : List FeedMove) (stopless : Prop) (written : Bytes) :
    FeedPlace → Prop
  | .closing _ | .done _ =>
    ∃ turned, turned <+: FeedMove.handed moves ∧ written <+: Feed.bytesOf turned ∧
      (FeedMove.Smooth moves → written = Feed.bytesOf turned ∧
        (stopless → turned = FeedMove.handed moves ∧ FeedMove.ended moves = true))
  | _ => True

namespace Feed

/-- The source of a feed has what some moves handed in. -/
structure Gets (moves : List FeedMove) (feed : Feed) : Prop where
  sources : feed.source.Gets [FeedMove.handedSource moves]
  active : feed.stop = .none → feed.source.active = true

namespace Gets

variable {past : List FeedMove} {feed next : Feed} {move : FeedMove}

/-- A new feed was handed nothing. -/
theorem begin (timed : Bool) : (Feed.begin none timed).Gets [] where
  sources := .ofSources [⟨"stdin-pipe".toList, [], true⟩] timed
  active _ := rfl

/-- What is handed in comes to the source. -/
theorem hand (gets : feed.Gets past) {message : Option Text}
    (speaks : move.message? = some message) :
    (feed.hand message).source.Gets [FeedMove.handedSource (past ++ [move])] := by
  have head : (feed.hand message).source = feed.source.hand 0 message := by
    cases lanes : feed.source.lanes <;> simp [Feed.hand, Mux.hand, lanes]
  rw [FeedMove.handedSource_concat, speaks, head]
  exact gets.sources.hand 0 message

/-- Other moves hand nothing in. -/
theorem quiet (gets : feed.Gets past) (silent : move.message? = none) {source : Mux}
    (still : feed.source.Gets [FeedMove.handedSource past] →
      source.Gets [FeedMove.handedSource past]) :
    source.Gets [FeedMove.handedSource (past ++ [move])] := by
  rw [FeedMove.handedSource_concat, silent]
  exact still gets.sources

/-- Every action keeps account of what was handed in. -/
theorem step (gets : feed.Gets past) (stepped : feed.Step move next) :
    next.Gets (past ++ [move]) := by
  -- Only a line, a mark of the end or a move of the source changes what was handed in.
  cases stepped with
  | pipe message => exact ⟨gets.hand rfl, gets.active⟩
  | source noStop noDrop stepped =>
    exact ⟨gets.quiet rfl fun sources => sources.step stepped, fun free =>
      (stepped.active_eq noStop noDrop).trans (gets.active free)⟩
  | markEnd closed => exact ⟨gets.hand rfl, fun free => by cases free⟩
  | tellSources marked =>
    exact ⟨gets.quiet rfl fun sources => sources.step .requestStop, fun free => by cases free⟩
  | requestStop | closeInput => exact ⟨gets.quiet rfl id, fun free => by cases free⟩
  | _ => exact ⟨gets.quiet rfl id, gets.active⟩

/-- The lines in rounds are the first that were handed in. -/
theorem rounds_isPrefix (gets : feed.Gets past) :
    Round.linesOf 0 feed.source.rounds <+: FeedMove.handed past := by
  have sources := gets.sources
  rw [FeedMove.handedSource_eq] at sources
  exact sources.rounds_isPrefix 0 rfl

/-- Without a stop the last round comes after the end of the lines. -/
theorem complete (gets : feed.Gets past) (stopless : feed.stop = .none)
    (finished : feed.source.consumer = .finished) :
    Round.linesOf 0 feed.source.rounds = FeedMove.handed past ∧
      FeedMove.ended past = true := by
  -- The last round comes when the source is exhausted, so its lines are all that were handed in.
  have sources := gets.sources
  rw [FeedMove.handedSource_eq] at sources
  obtain ⟨all, unheld⟩ := sources.complete (gets.active stopless) finished 0 rfl
  exact ⟨all, by simpa using unheld⟩

/-- A round holds the one line that it was made for. -/
theorem roundLines_eq (gets : feed.Gets past) {round : Round}
    (found : feed.source.rounds[feed.taken]? = some round) :
    (round.get? 0).toList = roundLines round := by
  have size := (gets.sources.accounts.rounds round (List.mem_of_getElem? found)).1
  obtain ⟨slot, alone⟩ := List.length_eq_one_iff.mp size
  cases slot <;> simp [Round.get?, roundLines, alone]

end Gets

/-- Where the forwarder stands with the lines that some moves handed in. -/
structure Forwards (past : List FeedMove) (feed : Feed) : Prop where
  within : feed.taken ≤ feed.source.rounds.length
  accounts : feed.place.Accounts feed.collected feed.written
  leaves : feed.place.Leaves past (feed.stop = .none) feed.written
  /-- Without a stop only the forwarder closes the input. -/
  shut : feed.stop = .none → feed.isOpen = false → ∃ fault, feed.place = .done fault
  requested : feed.stop = .none ∨ .requestStop ∈ past

/-- What was handed in before an end stays all there is, and later moves promise no more. -/
theorem leaves_append {place : FeedPlace} {past later : List FeedMove} {stopless still : Prop}
    {written : Bytes} (leaves : place.Leaves past stopless written) (less : still → stopless) :
    place.Leaves (past ++ later) still written := by
  -- Fewer moves promise less, so the promise made for all of them holds for the earlier ones.
  have smooth (after : FeedMove.Smooth (past ++ later)) : FeedMove.Smooth past :=
    fun move member => after move (List.mem_append_left _ member)
  have longer : FeedMove.handed past <+: FeedMove.handed (past ++ later) := by
    rw [FeedMove.handed_append]
    exact List.prefix_append _ _
  have same (ended : FeedMove.ended past = true) :
      FeedMove.handed (past ++ later) = FeedMove.handed past ∧
        FeedMove.ended (past ++ later) = true := by
    exact ⟨by simp [FeedMove.handed_append, ended], FeedMove.ended_append ended later⟩
  -- Only at the end is anything promised, and an end takes no lines after it.
  cases place with
  | closing | done =>
    obtain ⟨turned, starts, begins, whole⟩ := leaves
    refine ⟨turned, starts.trans longer, begins, fun after => ?_⟩
    obtain ⟨all, complete⟩ := whole (smooth after)
    refine ⟨all, fun free => ?_⟩
    obtain ⟨every, ended⟩ := complete (less free)
    exact ⟨every.trans (same ended).1.symm, (same ended).2⟩
  | _ => trivial

namespace Forwards

variable {past : List FeedMove} {feed next : Feed} {move : FeedMove}

/-- A new feed has written nothing. -/
theorem begin (timed : Bool) : (Feed.begin none timed).Forwards [] where
  within := Nat.le_refl 0
  accounts := rfl
  leaves := trivial
  shut _ closed := by cases closed
  requested := .inl rfl

/-- The lines that the forwarder took are the first that were handed in. -/
theorem collected_isPrefix (gets : feed.Gets past) : feed.collected <+: FeedMove.handed past := by
  -- The collected rounds are the first that the source gave.
  have earlier : feed.collected <+: Round.linesOf 0 feed.source.rounds := by
    have split := List.take_append_drop feed.taken feed.source.rounds
    exact ⟨Round.linesOf 0 (feed.source.rounds.drop feed.taken), by
      rw [collected, Round.linesOf, Round.linesOf, Round.linesOf, ← List.filterMap_append, split]⟩
  exact earlier.trans gets.rounds_isPrefix

/-- The forwarder stands where it is while others act. -/
theorem stay (forwards : feed.Forwards past) {source : Mux} {stop : FeedStop} {isOpen gone : Bool}
    (rounds : feed.source.rounds <+: source.rounds)
    (free : stop = .none → feed.stop = .none ∧ isOpen = feed.isOpen)
    (requested : stop = .none ∨ .requestStop ∈ past ++ [move]) :
    ({ feed with source, stop, isOpen, gone } : Feed).Forwards (past ++ [move]) := by
  -- More rounds behind those that were taken change nothing for the forwarder.
  obtain ⟨more, longer⟩ := rounds
  have same : ({ feed with source, stop, isOpen, gone } : Feed).collected = feed.collected := by
    simp [collected, ← longer, List.take_append_of_le_length forwards.within]
  refine ⟨?_, same ▸ forwards.accounts, leaves_append forwards.leaves fun none => (free none).1,
    fun none closed => forwards.shut (free none).1 ((free none).2 ▸ closed), requested⟩
  rw [← longer, List.length_append]
  exact Nat.le_add_right_of_le forwards.within

/-- A forwarder that asks for lines has written all that it took. -/
theorem of_asking (forwards : feed.Forwards past) (asking : feed.place = .asking) :
    feed.written = bytesOf feed.collected := by
  simpa only [asking, FeedPlace.Accounts] using forwards.accounts

/-- With lines at hand those before them were turned to. -/
theorem of_holding (forwards : feed.Forwards past) {rest : List Text}
    (holding : feed.place = .holding rest) :
    ∃ turned, turned ++ rest = feed.collected ∧ feed.written = bytesOf turned := by
  simpa only [holding, FeedPlace.Accounts] using forwards.accounts

/-- The line that is written counts as turned to, and only a part of it was written. -/
theorem of_writing (forwards : feed.Forwards past) {left : Bytes} {rest : List Text}
    (writing : feed.place = .writing left rest) :
    ∃ turned, turned ++ rest = feed.collected ∧ feed.written ++ left = bytesOf turned := by
  simpa only [writing, FeedPlace.Accounts] using forwards.accounts

/-- Without a stop the input is open until the forwarder is done. -/
theorem isOpen_of_stopless (forwards : feed.Forwards past) (stopless : feed.stop = .none)
    (notDone : ∀ fault, feed.place ≠ .done fault) : feed.isOpen = true := by
  cases isOpen : feed.isOpen with
  | true => rfl
  | false =>
    obtain ⟨fault, done⟩ := forwards.shut stopless isOpen
    exact absurd done (notDone fault)

/-- The forwarder goes to another place among the lines that it took. -/
theorem goTo (forwards : feed.Forwards past) {place : FeedPlace} {written : Bytes}
    (notDone : ∀ fault, feed.place ≠ .done fault)
    (accounts : place.Accounts feed.collected written)
    (leaves : place.Leaves (past ++ [move]) (feed.stop = .none) written) :
    ({ feed with place, written } : Feed).Forwards (past ++ [move]) where
  within := forwards.within
  accounts := accounts
  leaves := leaves
  shut stopless closed := by
    rw [forwards.isOpen_of_stopless stopless notDone] at closed
    cases closed
  requested := forwards.requested.imp_right (List.mem_append_left _)

/-- The lines of a round that the forwarder takes are those that it turns to next. -/
theorem collect (forwards : feed.Forwards past) (gets : feed.Gets past)
    (stepped : feed.Step .collect next) : next.Forwards (past ++ [.collect]) := by
  cases stepped with
  | @collect round asking found =>
    have more : ({ feed with place := .holding (roundLines round), taken := feed.taken + 1 } :
        Feed).collected = feed.collected ++ roundLines round := by
      rw [← gets.roundLines_eq found]
      exact Round.linesOf_take_add_one 0 found
    have inside : feed.taken < feed.source.rounds.length := (List.getElem?_eq_some_iff.mp found).1
    have stillOpen (stopless : feed.stop = .none) :=
      forwards.isOpen_of_stopless stopless (by simp [asking])
    exact ⟨inside, ⟨feed.collected, more.symm, forwards.of_asking asking⟩, trivial,
      fun stopless closed => by simp [stillOpen stopless] at closed,
      forwards.requested.imp_right (List.mem_append_left _)⟩

/-- When there are no more rounds all were taken, and without a stop they hold all lines. -/
theorem exhaust (forwards : feed.Forwards past) (gets : feed.Gets past)
    (stepped : feed.Step .exhaust next) : next.Forwards (past ++ [.exhaust]) := by
  cases stepped with
  | exhaust asking all finished =>
    have wrote := forwards.of_asking asking
    have every : feed.collected = Round.linesOf 0 feed.source.rounds := by
      rw [collected, all, List.take_length]
    refine forwards.goTo (by simp [asking]) trivial ?_
    have leaves : (FeedPlace.closing none).Leaves past (feed.stop = .none) feed.written :=
      ⟨feed.collected, collected_isPrefix gets, wrote ▸ List.prefix_rfl, fun _ =>
        ⟨wrote, fun stopless => every ▸ gets.complete stopless finished⟩⟩
    exact leaves_append leaves id

/-- When the forwarder turns to a line, the lines before it were written. -/
theorem turn (forwards : feed.Forwards past) (gets : feed.Gets past)
    (stepped : feed.Step .turn next) : next.Forwards (past ++ [.turn]) := by
  cases stepped with
  | ask holding =>
    obtain ⟨turned, split, all⟩ := forwards.of_holding holding
    refine forwards.goTo (by simp [holding]) ?_ trivial
    rw [List.append_nil] at split
    exact split ▸ all
  | @skip rest holding =>
    obtain ⟨turned, split, all⟩ := forwards.of_holding holding
    -- An empty line is turned to as well, and has no bytes.
    refine forwards.goTo (by simp [holding]) ⟨turned ++ [[]], by simpa using split, ?_⟩ trivial
    rw [all, bytesOf_append]
    exact (List.append_nil _).symm
  | @lock line rest holding nonempty isOpen =>
    obtain ⟨turned, split, all⟩ := forwards.of_holding holding
    refine forwards.goTo (by simp [holding]) ⟨turned ++ [line], by simpa using split, ?_⟩ trivial
    -- What is left of the line is all of it at first.
    have bytes : bytesOf [line] = lineBytes line := by simp [bytesOf, nonempty]
    rw [all, bytesOf_append, bytes]
  | @giveUp line rest holding nonempty shut =>
    obtain ⟨turned, split, all⟩ := forwards.of_holding holding
    have notDone : ∀ fault, feed.place ≠ .done fault := by simp [holding]
    refine forwards.goTo notDone trivial ?_
    have starts : turned <+: FeedMove.handed past :=
      (split ▸ List.prefix_append turned (line :: rest)).trans (collected_isPrefix gets)
    have leaves : (FeedPlace.closing none).Leaves past (feed.stop = .none) feed.written :=
      ⟨turned, starts, all ▸ List.prefix_rfl, fun _ => ⟨all, fun stopless => by
        -- Without a stop the input would be open.
        simp [forwards.isOpen_of_stopless stopless notDone] at shut⟩⟩
    exact leaves_append leaves id

/-- While a line is written, what is left of it becomes less, or is given up with a failure. -/
theorem write (forwards : feed.Forwards past) (gets : feed.Gets past)
    (writes : move.isWrite = true) (stepped : feed.Step move next) :
    next.Forwards (past ++ [move]) := by
  cases stepped with
  | @accept count left rest writing present some within =>
    obtain ⟨turned, split, all⟩ := forwards.of_writing writing
    refine forwards.goTo (by simp [writing]) ⟨turned, split, ?_⟩ trivial
    -- Bytes pass from what is left to what was written.
    rw [List.append_assoc, List.take_append_drop, all]
  | @refuse left rest writing fault =>
    obtain ⟨turned, split, all⟩ := forwards.of_writing writing
    refine forwards.goTo (by simp [writing]) trivial ?_
    have starts : turned <+: FeedMove.handed past :=
      (split ▸ List.prefix_append turned rest).trans (collected_isPrefix gets)
    -- The line at hand is lost, which is why nothing is promised after a failure.
    refine ⟨turned, ?_, all ▸ List.prefix_append _ left, fun smooth => ?_⟩
    · rw [FeedMove.handed_append]
      exact starts.trans (List.prefix_append _ _)
    · have failed := smooth (.refuse fault) (List.mem_append_right _ (List.mem_singleton_self _))
      cases failed
  | @endLine rest writing =>
    obtain ⟨turned, split, all⟩ := forwards.of_writing writing
    exact forwards.goTo (by simp [writing]) ⟨turned, split, by simpa using all⟩ trivial
  | _ => cases writes

/-- A stop request leaves the forwarder where it is, and ends what is promised without one. -/
theorem stop (forwards : feed.Forwards past) (stops : move.isStop = true)
    (stepped : feed.Step move next) : next.Forwards (past ++ [move]) := by
  have later := forwards.requested.imp_right (List.mem_append_left [move])
  cases stepped with
  | requestStop first =>
    exact forwards.stay List.prefix_rfl (fun none => by cases none)
      (.inr (List.mem_append_right _ (List.mem_singleton_self _)))
  | requestAgain again => exact forwards.stay List.prefix_rfl (fun none => ⟨none, rfl⟩) later
  -- The later parts come behind a first one, so the request is among the moves.
  | closeInput asked free =>
    exact forwards.stay List.prefix_rfl (fun none => by cases none)
      (.inr (by simpa [asked] using later))
  | markEnd closed =>
    exact forwards.stay List.prefix_rfl (fun none => by cases none)
      (.inr (by simpa [closed] using later))
  | tellSources marked =>
    exact forwards.stay (Mux.Step.rounds_isPrefix .requestStop) (fun none => by cases none)
      (.inr (by simpa [marked] using later))
  | _ => cases stops

/-- Every action keeps account of what was written. -/
theorem step (forwards : feed.Forwards past) (gets : feed.Gets past)
    (stepped : feed.Step move next) : next.Forwards (past ++ [move]) := by
  have later := forwards.requested.imp_right (List.mem_append_left [move])
  -- The forwarder's moves go from place to place; those of others leave it where it is.
  cases move with
  | collect => exact forwards.collect gets stepped
  | exhaust => exact forwards.exhaust gets stepped
  | turn => exact forwards.turn gets stepped
  | accept | refuse | endLine => exact forwards.write gets rfl stepped
  | requestStop | closeInput | markEnd | tellSources => exact forwards.stop rfl stepped
  | pipe message =>
    cases stepped
    exact forwards.stay List.prefix_rfl (fun none => ⟨none, rfl⟩) later
  | source move =>
    cases stepped with
    | source noStop noDrop stepped =>
      exact forwards.stay stepped.rounds_isPrefix (fun none => ⟨none, rfl⟩) later
  | close =>
    cases stepped with
    | close closing =>
      have leaves := forwards.leaves
      rw [closing] at leaves
      exact ⟨forwards.within, trivial, leaves_append leaves id, fun _ _ => ⟨_, rfl⟩, later⟩
  | childEnds =>
    cases stepped
    exact forwards.stay List.prefix_rfl (fun none => ⟨none, rfl⟩) later

/-- Every run keeps account of what was handed in and of what was written. -/
theorem moves {last : Feed} {later : List FeedMove} (forwards : feed.Forwards past)
    (gets : feed.Gets past) (run : feed.moves? later = some last) :
    last.Gets (past ++ later) ∧ last.Forwards (past ++ later) := by
  -- The run is taken apart move by move, from its start.
  induction later generalizing feed past with
  | nil =>
    obtain rfl : feed = last := by simpa [moves?] using run
    simpa using ⟨gets, forwards⟩
  | cons move rest ih =>
    obtain ⟨next, moved, run⟩ := moves?_cons.mp run
    have stepped := step_of_move? moved
    simpa using ih (forwards.step gets stepped) (gets.step stepped) run

end Forwards

/-- The input is closed, and no line is being written. -/
structure Shut (feed : Feed) : Prop where
  closed : feed.isOpen = false
  free : feed.isLocked = false

namespace Shut

variable {feed next last : Feed} {move : FeedMove} {later : List FeedMove}

/-- Nothing is written to a closed input, and it stays closed. -/
theorem step (shut : feed.Shut) (stepped : feed.Step move next) :
    next.Shut ∧ next.written = feed.written := by
  -- A line is locked only while the input is open, and nothing else is written.
  have free := shut.free
  cases stepped with
  | lock _ _ isOpen => simp [shut.closed] at isOpen
  | accept writing => simp [isLocked, writing] at free
  | closeInput => exact ⟨⟨rfl, free⟩, rfl⟩
  | close => exact ⟨⟨rfl, rfl⟩, rfl⟩
  | collect | exhaust | ask | skip | giveUp | refuse | endLine => exact ⟨⟨shut.closed, rfl⟩, rfl⟩
  | _ => exact ⟨⟨shut.closed, free⟩, rfl⟩

/-- Nothing is ever written to a closed input. -/
theorem moves (shut : feed.Shut) (run : feed.moves? later = some last) :
    last.Shut ∧ last.written = feed.written := by
  induction later generalizing feed with
  | nil =>
    obtain rfl : feed = last := by simpa [moves?] using run
    exact ⟨shut, rfl⟩
  | cons move rest ih =>
    obtain ⟨next, moved, run⟩ := moves?_cons.mp run
    -- A closed input stays closed at every step, and no step writes to it.
    obtain ⟨stillShut, same⟩ := shut.step (step_of_move? moved)
    obtain ⟨lastShut, lastSame⟩ := ih stillShut run
    exact ⟨lastShut, lastSame.trans same⟩

end Shut

end Feed
end IdlScout
