import IdlScout.Proofs.Session.Replay

/-! What rounds do to a session, told by the lines of its section stream and by what its receiver
answers. -/

namespace IdlScout

/-- What a receiver was told and answered, and the detections that are kept. -/
structure Ledger where
  told : List (Notice × Except OutputFault Unit)
  types : NameMap DetectedType
  topics : NameMap DetectedTopic

/-- What a receiver answers, given all it was told. -/
abbrev Answers := List Notice → Except OutputFault Unit

/-- Calls that were answered so. -/
def Call.Answered (answers : Answers) (calls : List Call) : Prop :=
  ∀ before call, before ++ [call] <+: calls →
    call.answer = answers (before.map Call.notice ++ [call.notice])

/-- The first calls were answered like all. -/
theorem Call.Answered.of_isPrefix {answers : Answers} {before calls : List Call}
    (answered : Call.Answered answers calls) (starts : before <+: calls) :
    Call.Answered answers before :=
  fun earlier call inside => answered earlier call (inside.trans starts)

namespace Ledger

/-- A detection is kept under its name. -/
def keep (notice : Notice) (ledger : Ledger) : Ledger :=
  match notice with
  | .type detected =>
    { ledger with types := NameMap.insert detected.fullName detected ledger.types }
  | .topic detected =>
    { ledger with topics := NameMap.insert detected.name detected ledger.topics }
  | _ => ledger

/-- A section is refused for its record, refused by the receiver, or kept. -/
def handle (answers : Answers) (closed : Section) (ledger : Ledger) :
    Except SessionFault Unit × Ledger :=
  match closed.notice? with
  | .error fault => (.error (.detection fault), ledger)
  | .ok notice =>
    let answer := answers (ledger.told.map Prod.fst ++ [notice])
    let heard := { ledger with told := ledger.told ++ [(notice, answer)] }
    match answer with
    | .error fault => (.error (.output fault), heard)
    | .ok () => (.ok (), heard.keep notice)

/-- A line of the section stream is decoded, and a section that it closes is handled. -/
def readLine (answers : Answers) (decoder : Decoder) (line : Text) (ledger : Ledger) :
    Except SessionFault Decoder × Ledger :=
  match decoder.feed line with
  | (.section closed, decoder) =>
    match ledger.handle answers closed with
    | (.ok (), ledger) => (.ok decoder, ledger)
    | (.error fault, ledger) => (.error fault, ledger)
  | (_, decoder) => (.ok decoder, ledger)

/-- Lines of the section stream are read up to the first that fails. -/
def readLines (answers : Answers) : List Text → Decoder → Ledger →
    Except SessionFault Decoder × Ledger
  | [], decoder, ledger => (.ok decoder, ledger)
  | line :: rest, decoder, ledger =>
    match ledger.readLine answers decoder line with
    | (.ok decoder, ledger) => readLines answers rest decoder ledger
    | (.error fault, ledger) => (.error fault, ledger)

/-- Lines that come in two parts: the second is read unless the first fails. -/
theorem readLines_append (answers : Answers) (before after : List Text) (decoder : Decoder)
    (ledger : Ledger) :
    readLines answers (before ++ after) decoder ledger =
      match readLines answers before decoder ledger with
      | (.ok decoder, ledger) => readLines answers after decoder ledger
      | (.error fault, ledger) => (.error fault, ledger) := by
  induction before generalizing decoder ledger with
  | nil => rfl
  | cons line rest ih =>
    simp only [List.cons_append, readLines]
    -- A fault of the first line is one of all.
    rcases ledger.readLine answers decoder line with ⟨fault | decoder, ledger⟩
    · rfl
    · exact ih decoder ledger

/-- Lines after one that fails make no difference. -/
theorem readLines_of_error {answers : Answers} {before lines : List Text} {decoder : Decoder}
    {ledger after : Ledger} {fault : SessionFault} (starts : before <+: lines)
    (failed : readLines answers before decoder ledger = (.error fault, after)) :
    readLines answers lines decoder ledger = (.error fault, after) := by
  obtain ⟨rest, rfl⟩ := starts
  rw [readLines_append, failed]

end Ledger

namespace Session

variable {ρ : Type} {answers : Answers}

/-- The ledger of a session whose receiver's calls are recorded. -/
def ledger (session : Session (Recorded ρ)) : Ledger where
  told := session.receiver.calls.map fun call => (call.notice, call.answer)
  types := session.types
  topics := session.topics

/-- A session after a step that may have failed: it goes on from the one before, and its ledger is
told by what its receiver answers. -/
structure Books {α : Type} (answers : Answers) (session : Session (Recorded ρ))
    (entry : Ledger → Except SessionFault α × Ledger)
    (last : Except SessionFault α × Session (Recorded ρ) × World) : Prop where
  continues : Continues session last.2.1
  booked : Call.Answered answers last.2.1.receiver.calls →
    entry session.ledger = (last.1, last.2.1.ledger)

/-- The ledger keeps what the session keeps. -/
theorem ledger_keep (notice : Notice) (session : Session (Recorded ρ)) :
    (session.keep notice).ledger = session.ledger.keep notice := by
  cases notice <;> rfl

/-- A call's answer is that to all notices so far. -/
theorem answer_of_heard {session : Session (Recorded ρ)} {receiver : ρ} {call : Call}
    (answered : Call.Answered answers (session.heard receiver call).receiver.calls) :
    answers (session.ledger.told.map Prod.fst ++ [call.notice]) = call.answer := by
  have last := answered session.receiver.calls call List.prefix_rfl
  rw [last, ledger, List.map_map]
  rfl

/-- Handling a section makes the entry of the section. -/
theorem handle_books (answers : Answers) (react : Receiver ρ) (closed : Section)
    (session : Session (Recorded ρ)) (world : World) :
    Books answers session (Ledger.handle answers closed)
      (handle react.recording closed (session, world)) := by
  -- The session's three ways with a section are those of the ledger.
  have way := handle_handled react closed session world
  generalize handle react.recording closed (session, world) = last at way
  cases way with
  -- A text that is no record makes no call.
  | invalid invalid =>
    refine ⟨⟨rfl, rfl, List.prefix_rfl⟩, fun _ => ?_⟩
    simp only [Ledger.handle, invalid]
  | @refused notice fault told receiver after =>
    refine ⟨⟨rfl, rfl, List.prefix_append _ _⟩, fun answered => ?_⟩
    have answer := answer_of_heard answered
    simp only [Ledger.handle, told, answer]
    simp [ledger, heard]
  -- What is kept enters the books under its own name.
  | @kept notice told receiver after =>
    refine ⟨Continues.keep session receiver _ notice, fun answered => ?_⟩
    rw [keep_receiver] at answered
    have answer := answer_of_heard answered
    simp only [Ledger.handle, told, answer, ledger_keep]
    simp [ledger, heard]

/-- Decoding a line makes the entry of the line. -/
theorem decodeLine_books (answers : Answers) (react : Receiver ρ) (decoder : Decoder) (line : Text)
    (session : Session (Recorded ρ)) (world : World) :
    Books answers session (Ledger.readLine answers decoder line)
      (decodeLine react.recording decoder line (session, world)) := by
  rcases fed : decoder.feed line with ⟨result, decoder'⟩
  cases result with
  -- Only a line that closes a section makes an entry.
  | nothing | anomaly =>
    simp only [decodeLine, fed]
    refine ⟨⟨rfl, rfl, List.prefix_rfl⟩, fun _ => ?_⟩
    simp only [Ledger.readLine, fed]
    rfl
  | «section» closed =>
    have handles := handle_books answers react closed session world
    simp only [decodeLine, fed]
    rw [Act.bind_apply]
    -- The decoder of the next line does not depend on how the section was answered.
    rcases handled : handle react.recording closed (session, world) with
      ⟨fault | _, session', world'⟩ <;> rw [handled] at handles
    · refine ⟨handles.continues, fun answered => ?_⟩
      simp only [Ledger.readLine, fed, handles.booked answered]
    · refine ⟨handles.continues, fun answered => ?_⟩
      simp only [Ledger.readLine, fed, handles.booked answered]
      rfl

/-- Other lines of a round are logged once its line of the section stream is decoded. -/
theorem consume_apply (react : Receiver ρ) (decoder : Decoder) (round : Round)
    (session : Session ρ) (world : World) :
    let decoding : Step ρ Decoder :=
      match round.get? (slots session.settings).1 with
      | some line => decodeLine react decoder line
      | none => pure decoder
    ∃ noted, consume react decoder round (session, world) =
      ((decoding (session, world)).1, (decoding (session, world)).2.1, noted) := by
  intro decoding
  have whole : consume react decoder round (session, world) =
      (decoding >>= fun decoder => do
        match round.get? (slots session.settings).2 with
        | some line => Act.note .debug .session ("scraper: ".toList ++ line)
        | none => pure ()
        return decoder) (session, world) := by
    rw [consume, Act.bind_of_ok (Act.own_apply _)]
    dsimp only [decoding]
    -- Whether the round has a section's line decides what is bound first, and that alone.
    cases round.get? (slots session.settings).1 <;> rfl
  rw [whole, Act.bind_apply]
  rcases decoding (session, world) with ⟨fault | decoder', session', world'⟩
  · -- After a fault other lines of the round are not logged.
    exact ⟨world', rfl⟩
  · cases round.get? (slots session.settings).2 with
    | none => exact ⟨world', rfl⟩
    | some line => exact ⟨_, rfl⟩

/-- Consuming a round makes the entry of its line of the section stream, whatever else it holds. -/
theorem consume_books (answers : Answers) (react : Receiver ρ) (decoder : Decoder) (round : Round)
    (session : Session (Recorded ρ)) (world : World) :
    Books answers session
      (Ledger.readLines answers (round.get? (slots session.settings).1).toList decoder)
      (consume react.recording decoder round (session, world)) := by
  obtain ⟨noted, ran⟩ := consume_apply react.recording decoder round session world
  rw [ran]
  -- What the round holds of the other stream has gone to the log.
  cases held : round.get? (slots session.settings).1 with
  | none => exact ⟨⟨rfl, rfl, List.prefix_rfl⟩, fun _ => rfl⟩
  | some line =>
    have decodes := decodeLine_books answers react decoder line session world
    refine ⟨decodes.continues, fun answered => ?_⟩
    have booked := decodes.booked answered
    simp only [Option.toList_some, Ledger.readLines, booked]
    rcases (decodeLine react.recording decoder line (session, world)).1 <;> rfl

end Session
end IdlScout
