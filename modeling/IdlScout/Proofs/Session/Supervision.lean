import IdlScout.Proofs.Session.Ledger
import IdlScout.Proofs.Streams.Supply

/-! A session that watches its child, while the child writes, the lines are on their way and others
change the files. Only the lines of the section stream decide what the session does. -/

namespace IdlScout

/-- How a child ends: its status, and what became of the lines for its input. -/
structure ChildEnd where
  status : ExitStatus
  forwarded : Except WriteFault Unit := .ok ()

/-- What a session makes of the end of its child. -/
def ChildEnd.result (ending : ChildEnd) : Except SessionFault Unit :=
  match ChildProcess.endFault? ending.status ending.forwarded with
  | some fault => .error (.process fault)
  | none => .ok ()

/-- A session with the output of its child. -/
structure Supervision (ρ : Type) where
  output : Mux
  session : Session ρ
  world : World
  decoder : Decoder := {}
  /-- The rounds that were consumed. -/
  consumed : Nat := 0
  result : Option (Except SessionFault Unit) := none

/-- One atomic action of one party, when nobody requests a stop. -/
inductive SupervisionMove where
  /-- The child writes a line to one of its streams, or ends the stream. -/
  | write (stream : Nat) (message : Option Text)
  /-- The lines go on towards the session. -/
  | output (move : Move)
  /-- Others change the files and the log. -/
  | meanwhile (world : World)
  /-- The session consumes the next round. -/
  | consume
  /-- The session is told of the end of the child. -/
  | collect

namespace SupervisionMove

/-- What a child writes to a stream in some moves. -/
def messages (stream : Nat) (moves : List SupervisionMove) : List (Option Text) :=
  moves.filterMap fun
    | .write other message => if other = stream then some message else none
    | _ => none

/-- The lines that a child writes to a stream in some moves. -/
def written (stream : Nat) (moves : List SupervisionMove) : List Text :=
  Source.handed (messages stream moves)

end SupervisionMove

namespace Supervision

variable {ρ : Type}

/-- A session that begins to watch a child. -/
def begin (timed : Bool) (session : Session ρ) (world : World) : Supervision ρ where
  output := (ChildProcess.begin none timed).monitor.process.output
  session := session
  world := world

/-- The state after an action, if the action is possible, when the child ends in some way. -/
def move? (react : Receiver ρ) (ending : ChildEnd) (supervision : Supervision ρ) :
    SupervisionMove → Option (Supervision ρ)
  | .write stream message =>
    some { supervision with output := supervision.output.hand stream message }
  | .output move => do
    if move matches .requestStop | .drop then none
    let output ← supervision.output.move? move
    return { supervision with output }
  | .meanwhile world => some { supervision with world }
  | .consume =>
    match supervision.result, supervision.output.rounds[supervision.consumed]? with
    | none, some round =>
      let consumed := supervision.consumed + 1
      match Session.consume react supervision.decoder round
          (supervision.session, supervision.world) with
      | (.ok decoder, session, world) =>
        some { supervision with session, world, decoder, consumed }
      -- A fault ends the session's part, in the middle of the output.
      | (.error fault, session, world) =>
        some { supervision with session, world, consumed, result := some (.error fault) }
    | _, _ => none
  | .collect =>
    if supervision.result.isNone && supervision.consumed = supervision.output.rounds.length &&
        supervision.output.consumer = .finished then
      some { supervision with result := some ending.result }
    else none

/-- The state after several actions. -/
def moves? (react : Receiver ρ) (ending : ChildEnd) (supervision : Supervision ρ)
    (moves : List SupervisionMove) : Option (Supervision ρ) :=
  moves.foldlM (move? react ending) supervision

/-- A run begins with its first move. -/
theorem moves?_cons {react : Receiver ρ} {ending : ChildEnd} {supervision last : Supervision ρ}
    {move : SupervisionMove} {rest : List SupervisionMove} :
    supervision.moves? react ending (move :: rest) = some last ↔ ∃ next,
      supervision.move? react ending move = some next ∧ next.moves? react ending rest = some last := by
  simp [moves?, Option.bind_eq_some_iff]

end Supervision

namespace SupervisionMove

/-- The two streams of a child, after some moves. -/
def sources (moves : List SupervisionMove) : List Source :=
  [(messages 0 moves).foldl Source.hand ⟨"stdout".toList, [], true⟩,
    (messages 1 moves).foldl Source.hand ⟨"stderr".toList, [], true⟩]

/-- What is written comes to its stream. -/
theorem sources_write (past : List SupervisionMove) (stream : Nat) (message : Option Text) :
    sources (past ++ [.write stream message]) =
      (sources past).modify stream fun source => source.hand message := by
  rcases stream with _ | _ | stream <;> simp [sources, messages]

/-- Other moves write nothing. -/
theorem sources_quiet (past : List SupervisionMove) {move : SupervisionMove}
    (quiet : ∀ stream message, move ≠ .write stream message) :
    sources (past ++ [move]) = sources past := by
  cases move with
  | write stream message => exact absurd rfl (quiet stream message)
  | _ => simp [sources, messages]

/-- A stream has the lines that were written before its first end. -/
theorem sources_getElem? {stream : Nat} (within : stream < 2) (moves : List SupervisionMove) :
    ∃ id, (sources moves)[stream]? =
      some ⟨id, written stream moves, (messages stream moves).all Option.isSome⟩ := by
  -- There are two streams, and each is told of its own messages alone.
  rcases stream with _ | _ | stream
  · exact ⟨"stdout".toList, by simp [sources, Source.foldl_hand, written]⟩
  · exact ⟨"stderr".toList, by simp [sources, Source.foldl_hand, written]⟩
  · omega

/-- What is written after the end of a stream is lost. -/
theorem written_append (stream : Nat) (past later : List SupervisionMove) :
    written stream (past ++ later) = written stream past ++
      if (messages stream past).all Option.isSome then written stream later else [] := by
  rw [written, messages, List.filterMap_append, Source.handed_append]
  rfl

end SupervisionMove

namespace Ledger

/-- What comes of the lines of a section stream and of the end behind them. -/
def outcome (answers : Answers) (ending : ChildEnd) (lines : List Text) (ledger : Ledger) :
    Except SessionFault Unit × Ledger :=
  match readLines answers lines {} ledger with
  | (.ok _, after) => (ending.result, after)
  | (.error fault, after) => (.error fault, after)

end Ledger

namespace Supervision

variable {ρ : Type} {answers : Answers} {ending : ChildEnd} {first : Session (Recorded ρ)}
  {past : List SupervisionMove} {supervision next : Supervision (Recorded ρ)}

/-- The books are right: so far they are those of the section lines that were consumed, and at the
end those of all section lines, whatever is still written. -/
def Booked (answers : Answers) (ending : ChildEnd) (first : Session (Recorded ρ))
    (past : List SupervisionMove) (supervision : Supervision (Recorded ρ)) : Prop :=
  let stream := (Session.slots first.settings).1
  match supervision.result with
  | none =>
    Ledger.readLines answers
        (Round.linesOf stream (supervision.output.rounds.take supervision.consumed)) {}
        first.ledger = (.ok supervision.decoder, supervision.session.ledger)
  | some result =>
    ∀ later, Ledger.outcome answers ending (SupervisionMove.written stream (past ++ later))
      first.ledger = (result, supervision.session.ledger)

/-- Where a session stands that watches its child. -/
structure Follows (answers : Answers) (ending : ChildEnd) (first : Session (Recorded ρ))
    (past : List SupervisionMove) (supervision : Supervision (Recorded ρ)) : Prop where
  output : supervision.output.Gets (SupervisionMove.sources past)
  active : supervision.output.active = true
  continues : Session.Continues first supervision.session
  within : supervision.consumed ≤ supervision.output.rounds.length
  booked : Call.Answered answers supervision.session.receiver.calls →
    supervision.Booked answers ending first past

namespace Follows

/-- At first nothing was consumed. -/
theorem begin (timed : Bool) (session : Session (Recorded ρ)) (world : World) :
    (Supervision.begin timed session world).Follows answers ending session [] where
  output := .ofSources [⟨"stdout".toList, [], true⟩, ⟨"stderr".toList, [], true⟩] timed
  active := rfl
  continues := ⟨rfl, rfl, List.prefix_rfl⟩
  within := Nat.le_refl 0
  booked _ := rfl

/-- The section stream is one of the two. -/
theorem stream_lt (settings : Settings) : (Session.slots settings).1 < 2 := by
  unfold Session.slots
  split <;> decide

/-- Section lines in rounds are the first that were written. -/
theorem rounds_isPrefix (follows : supervision.Follows answers ending first past) :
    Round.linesOf (Session.slots first.settings).1 supervision.output.rounds <+:
      SupervisionMove.written (Session.slots first.settings).1 past := by
  obtain ⟨id, registered⟩ := SupervisionMove.sources_getElem? (stream_lt first.settings) past
  exact follows.output.rounds_isPrefix _ registered

/-- What others do leaves the books right. -/
theorem stay (follows : supervision.Follows answers ending first past) {move : SupervisionMove}
    {output : Mux} {world : World} (gets : output.Gets (SupervisionMove.sources (past ++ [move])))
    (active : output.active = true) (rounds : supervision.output.rounds <+: output.rounds) :
    ({ supervision with output, world } : Supervision (Recorded ρ)).Follows answers ending first
      (past ++ [move]) := by
  -- Rounds that are new stand behind those that were consumed, and new moves behind the past ones.
  obtain ⟨more, longer⟩ := rounds
  refine ⟨gets, active, follows.continues, ?_, fun answered => ?_⟩
  · rw [← longer, List.length_append]
    exact Nat.le_add_right_of_le follows.within
  · have booked := follows.booked answered
    unfold Booked at booked ⊢
    simp only
    cases ended : supervision.result with
    | none =>
      simp only [ended] at booked ⊢
      rwa [← longer, List.take_append_of_le_length follows.within]
    -- The session's part is over, so only the moves behind it are more.
    | some result =>
      simp only [ended] at booked ⊢
      intro later
      rw [List.append_assoc]
      exact booked ([move] ++ later)

/-- Section lines that were consumed are the first that were written. -/
theorem consumed_isPrefix (follows : supervision.Follows answers ending first past)
    {taken : List Round} (starts : taken <+: supervision.output.rounds)
    (later : List SupervisionMove) :
    Round.linesOf (Session.slots first.settings).1 taken <+:
      SupervisionMove.written (Session.slots first.settings).1 (past ++ later) := by
  -- Lines stay written whatever moves come later.
  have written : SupervisionMove.written (Session.slots first.settings).1 past <+:
      SupervisionMove.written (Session.slots first.settings).1 (past ++ later) := by
    rw [SupervisionMove.written_append]
    exact List.prefix_append _ _
  exact ((starts.filterMap _).trans follows.rounds_isPrefix).trans written

/-- The books of the lines before go on with the line of the round that is consumed. -/
theorem enter (follows : supervision.Follows answers ending first past) {react : Receiver ρ}
    {round : Round} {result : Except SessionFault Decoder} {session : Session (Recorded ρ)}
    {world : World} (going : supervision.result = none)
    (found : supervision.output.rounds[supervision.consumed]? = some round)
    (ran : Session.consume react.recording supervision.decoder round
      (supervision.session, supervision.world) = (result, session, world)) :
    Session.Continues supervision.session session ∧
      (Call.Answered answers session.receiver.calls →
        Ledger.readLines answers (Round.linesOf (Session.slots first.settings).1
          (supervision.output.rounds.take (supervision.consumed + 1))) {} first.ledger =
            (result, session.ledger)) := by
  -- A round that is consumed is one more line of the section stream in the books.
  have books := Session.consume_books answers react supervision.decoder round supervision.session
    supervision.world
  rw [ran, follows.continues.settings] at books
  refine ⟨books.continues, fun answered => ?_⟩
  have before := follows.booked (answered.of_isPrefix books.continues.calls)
  simp only [Booked, going] at before
  rw [Round.linesOf_take_add_one _ found, Ledger.readLines_append, before]
  exact books.booked answered

/-- A round that is consumed enters the books, whatever it holds of the other stream. -/
theorem consume (follows : supervision.Follows answers ending first past) {react : Receiver ρ}
    (moved : supervision.move? react.recording ending .consume = some next) :
    next.Follows answers ending first (past ++ [.consume]) := by
  -- Consuming writes nothing to a stream.
  have gets : supervision.output.Gets (SupervisionMove.sources (past ++ [.consume])) := by
    rw [SupervisionMove.sources_quiet _ (by simp)]
    exact follows.output
  simp only [move?] at moved
  split at moved
  · rename_i round going found
    have inside : supervision.consumed < supervision.output.rounds.length :=
      (List.getElem?_eq_some_iff.mp found).1
    split at moved
    · rename_i decoder session world ran
      -- The session goes on with one more line in its books.
      obtain rfl : _ = next := by simpa only [Option.some.injEq] using moved
      obtain ⟨continues, entered⟩ := follows.enter going found ran
      refine ⟨gets, follows.active, follows.continues.trans continues, inside, fun answered => ?_⟩
      simp only [Booked, going]
      exact entered answered
    · rename_i fault session world ran
      -- The line's fault is the session's result, and it stays that.
      obtain rfl : _ = next := by simpa only [Option.some.injEq] using moved
      obtain ⟨continues, entered⟩ := follows.enter going found ran
      refine ⟨gets, follows.active, follows.continues.trans continues, inside, fun answered => ?_⟩
      -- What is written behind the line makes no difference.
      simp only [Booked]
      intro later
      have starts := follows.consumed_isPrefix
        (List.take_prefix (supervision.consumed + 1) supervision.output.rounds)
        ([SupervisionMove.consume] ++ later)
      rw [List.append_assoc, Ledger.outcome,
        Ledger.readLines_of_error starts (entered answered)]
  · cases moved

/-- At the end all section lines are in the books. -/
theorem collect (follows : supervision.Follows answers ending first past) {react : Receiver ρ}
    (moved : supervision.move? react.recording ending .collect = some next) :
    next.Follows answers ending first (past ++ [.collect]) := by
  have gets : supervision.output.Gets (SupervisionMove.sources (past ++ [.collect])) := by
    rw [SupervisionMove.sources_quiet _ (by simp)]
    exact follows.output
  simp only [move?, Option.ite_none_right_eq_some, Bool.and_eq_true, decide_eq_true_eq,
    Option.isNone_iff_eq_none, Option.some.injEq] at moved
  obtain ⟨⟨⟨going, all⟩, finished⟩, rfl⟩ := moved
  refine ⟨gets, follows.active, follows.continues, follows.within, fun answered => ?_⟩
  have booked := follows.booked answered
  simp only [Booked, going, all, List.take_length] at booked ⊢
  intro later
  -- Both streams have ended, so that nothing is written any more.
  obtain ⟨id, registered⟩ := SupervisionMove.sources_getElem? (stream_lt first.settings) past
  obtain ⟨every, unheld⟩ := follows.output.complete follows.active finished _ registered
  simp only at every unheld
  rw [List.append_assoc, SupervisionMove.written_append, unheld, if_neg Bool.false_ne_true,
    List.append_nil, ← every, Ledger.outcome, booked]

/-- Every action leaves the books right. -/
theorem step (follows : supervision.Follows answers ending first past) {react : Receiver ρ}
    {move : SupervisionMove} (moved : supervision.move? react.recording ending move = some next) :
    next.Follows answers ending first (past ++ [move]) := by
  cases move with
  | write stream message =>
    -- What the child writes comes to the stream's source.
    obtain rfl : _ = next := by simpa only [move?, Option.some.injEq] using moved
    refine follows.stay ?_ follows.active List.prefix_rfl
    rw [SupervisionMove.sources_write]
    exact follows.output.hand stream message
  | output move =>
    simp only [move?, Option.bind_eq_bind, Option.pure_def] at moved
    split at moved
    · simp at moved
    · simp at moved
    · rename_i noStop noDrop
      simp only [Bool.false_eq_true, if_false, Option.bind_eq_some_iff, Option.some.injEq] at moved
      -- Rounds are made of lines that were written, so making one writes none.
      obtain ⟨output, stepped, rfl⟩ := moved
      have step := Mux.step_of_move? stepped
      refine follows.stay ?_ ((step.active_eq noStop noDrop).trans follows.active)
        step.rounds_isPrefix
      rw [SupervisionMove.sources_quiet _ (by simp)]
      exact follows.output.step step
  | meanwhile world =>
    -- Others change files and log, which no book is kept of.
    obtain rfl : _ = next := by simpa only [move?, Option.some.injEq] using moved
    refine follows.stay ?_ follows.active List.prefix_rfl
    rw [SupervisionMove.sources_quiet _ (by simp)]
    exact follows.output
  | consume => exact follows.consume moved
  | collect => exact follows.collect moved

/-- Every run leaves the books right. -/
theorem moves {last : Supervision (Recorded ρ)} {later : List SupervisionMove}
    (follows : supervision.Follows answers ending first past) {react : Receiver ρ}
    (run : supervision.moves? react.recording ending later = some last) :
    last.Follows answers ending first (past ++ later) := by
  -- The run is taken apart move by move, from its start.
  induction later generalizing supervision past with
  | nil =>
    obtain rfl : supervision = last := by simpa [moves?] using run
    simpa using follows
  | cons move rest ih =>
    obtain ⟨next, moved, run⟩ := moves?_cons.mp run
    simpa using ih (follows.step moved) run

end Follows

/-- A run that has come to a result has that of its section lines and of the end of the child. -/
theorem outcome_of_moves {react : Receiver ρ} {timed : Bool} {world : World}
    {moves : List SupervisionMove} {last : Supervision (Recorded ρ)}
    {result : Except SessionFault Unit}
    (run : (begin timed first world).moves? react.recording ending moves = some last)
    (ended : last.result = some result)
    (answered : Call.Answered answers last.session.receiver.calls) :
    (result, last.session.ledger) = Ledger.outcome answers ending
      (SupervisionMove.written (Session.slots first.settings).1 moves) first.ledger := by
  have begins : (begin timed first world).Follows answers ending first [] :=
    .begin timed first world
  have booked := (begins.moves run).booked answered
  -- A result is booked as the outcome of all lines, so later moves may be none.
  simp only [Booked, ended] at booked
  simpa using (booked []).symm

/-- Two runs of sessions with the same settings and the same detections at first, whose receivers
answer alike and whose children write the same lines to the section stream and end alike, come to
the same result: the receivers are told the same and the same is kept. What the children write to
the other stream, which lines share a round and what others do makes no difference. -/
theorem result_of_section_stream {ρ₁ ρ₂ : Type} (react₁ : Receiver ρ₁) (react₂ : Receiver ρ₂)
    (answers : Answers) (ending : ChildEnd) (timed₁ timed₂ : Bool)
    (first₁ : Session (Recorded ρ₁)) (first₂ : Session (Recorded ρ₂)) (world₁ world₂ : World)
    (sameSettings : first₁.settings = first₂.settings) (sameTypes : first₁.types = first₂.types)
    (sameTopics : first₁.topics = first₂.topics) (uncalled₁ : first₁.receiver.calls = [])
    (uncalled₂ : first₂.receiver.calls = []) (moves₁ moves₂ : List SupervisionMove)
    (last₁ : Supervision (Recorded ρ₁)) (last₂ : Supervision (Recorded ρ₂))
    (run₁ : (begin timed₁ first₁ world₁).moves? react₁.recording ending moves₁ = some last₁)
    (run₂ : (begin timed₂ first₂ world₂).moves? react₂.recording ending moves₂ = some last₂)
    (ended₁ : last₁.result.isSome = true) (ended₂ : last₂.result.isSome = true)
    (answered₁ : Call.Answered answers last₁.session.receiver.calls)
    (answered₂ : Call.Answered answers last₂.session.receiver.calls)
    (sameLines : SupervisionMove.written (Session.slots first₁.settings).1 moves₁ =
      SupervisionMove.written (Session.slots first₁.settings).1 moves₂) :
    last₁.result = last₂.result ∧
      last₁.session.receiver.calls.map (fun call => (call.notice, call.answer)) =
        last₂.session.receiver.calls.map (fun call => (call.notice, call.answer)) ∧
      last₁.session.types = last₂.session.types ∧ last₁.session.topics = last₂.session.topics := by
  obtain ⟨result₁, ends₁⟩ := Option.isSome_iff_exists.mp ended₁
  obtain ⟨result₂, ends₂⟩ := Option.isSome_iff_exists.mp ended₂
  have outcome₁ := outcome_of_moves run₁ ends₁ answered₁
  have outcome₂ := outcome_of_moves run₂ ends₂ answered₂
  have firsts : first₁.ledger = first₂.ledger := by
    simp only [Session.ledger, sameTypes, sameTopics, uncalled₁, uncalled₂, List.map_nil]
  -- Both outcomes are those of the same lines, from the same ledger.
  rw [sameLines, firsts, sameSettings] at outcome₁
  have same := outcome₁.trans outcome₂.symm
  have results : result₁ = result₂ := congrArg Prod.fst same
  have ledgers : last₁.session.ledger = last₂.session.ledger := congrArg Prod.snd same
  exact ⟨by rw [ends₁, ends₂, results], congrArg Ledger.told ledgers,
    congrArg Ledger.types ledgers, congrArg Ledger.topics ledgers⟩

/-- A child writes a topic and a type that is refused. Beside another session it writes the same
lines to the other stream too, and all of them before the first is consumed. -/
theorem result_of_section_stream_of_two_runs :
    let record := "\x7b\"name\": \"t\", \"type_name\": \"x\", \"idl\": \"\"\x7d".toList
    let lines := [(Marker.opening .topic).text, record, (Marker.closing .topic).text,
      (Marker.opening .type).text, ['!'], (Marker.closing .type).text]
    let read (stream : Nat) : List SupervisionMove := List.replicate 3 (.output (.reader stream))
    let round : List SupervisionMove :=
      [Move.ask, .check, .wakeUp, .recheck, .take, .take, .settle].map .output ++ [.consume]
    let alone := lines.flatMap fun line => .write 1 (some line) :: read 1 ++ round
    let beside := (lines.flatMap fun line =>
      [.write 0 (some line), .write 1 (some line)] ++ read 0 ++ read 1) ++
        lines.flatMap fun _ => round
    let first : Session (Recorded Unit) := { settings := {}, receiver := { receiver := () } }
    let world : World := { tree := ⟨[], []⟩ }
    let react : Receiver Unit := fun _ state => (.ok (), state)
    let ending : ChildEnd := { status := .exited 0 }
    ∃ last₁ last₂, (begin false first world).moves? react.recording ending alone = some last₁ ∧
      (begin false first world).moves? react.recording ending beside = some last₂ ∧
      last₁.result = last₂.result ∧ last₁.session.topics = last₂.session.topics ∧
      last₁.result.any (fun result => !result.isOk) = true ∧
      last₂.session.topics.names = [['t']] := by
  intro record lines read round alone beside first world react ending
  -- Every call was answered by success.
  let fails (last : Supervision (Recorded Unit)) : Bool :=
    last.result.any (fun result => !result.isOk) && (last.session.topics.names == [['t']] &&
      last.session.receiver.calls.all fun call => call.answer.isOk)
  have ends₁ :
      ((begin false first world).moves? react.recording ending alone).any fails = true := by
    decide +kernel
  have ends₂ :
      ((begin false first world).moves? react.recording ending beside).any fails = true := by
    decide +kernel
  obtain ⟨last₁, run₁, facts₁⟩ := (Option.any_eq_true _ _).mp ends₁
  obtain ⟨last₂, run₂, facts₂⟩ := (Option.any_eq_true _ _).mp ends₂
  simp only [fails, Bool.and_eq_true, beq_iff_eq, List.all_eq_true] at facts₁ facts₂
  have answered {calls : List Call} (ok : ∀ call ∈ calls, call.answer.isOk = true) :
      Call.Answered (fun _ => .ok ()) calls := by
    intro before call inside
    -- A call that was answered by success is what the answers say of it.
    have success := ok call (inside.subset (by simp))
    cases answer : call.answer with
    | ok => rfl
    | error => simp [answer, Except.isOk, Except.toBool] at success
  have isSome {last : Supervision (Recorded Unit)}
      (failed : last.result.any (fun result => !result.isOk) = true) :
      last.result.isSome = true := by
    obtain ⟨result, found, -⟩ := (Option.any_eq_true _ _).mp failed
    simp [found]
  have same := result_of_section_stream react react (fun _ => .ok ()) ending false false first first
    world world rfl rfl rfl rfl rfl alone beside last₁ last₂ run₁ run₂ (isSome facts₁.1)
    (isSome facts₂.1) (answered facts₁.2.2) (answered facts₂.2.2) (by decide +kernel)
  exact ⟨last₁, last₂, run₁, run₂, same.1, same.2.2.2, facts₁.1, facts₂.2.1⟩

end Supervision
end IdlScout
