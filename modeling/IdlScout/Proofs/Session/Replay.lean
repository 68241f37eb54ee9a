import IdlScout.Proofs.Act
import IdlScout.Proofs.Emission.Notices
import IdlScout.Proofs.Text.NameMap
import IdlScout.Session.Run

/-! A replay tells the receiver of the sections of its files in order, up to the first that is
refused, and keeps the last detection of every name. -/

namespace IdlScout

/-- A call of a receiver: what it was told, what it answered, and the files after it. -/
structure Call where
  notice : Notice
  answer : Except OutputFault Unit
  tree : FileTree

/-- The files after some calls of a receiver. -/
def Call.treeAfter (start : FileTree) (calls : List Call) : FileTree :=
  (calls.getLast?.map Call.tree).getD start

/-- A receiver with the calls that it had. -/
structure Recorded (ρ : Type) where
  receiver : ρ
  calls : List Call := []

/-- A receiver whose calls are recorded, and that reacts to them as before. -/
def Receiver.recording {ρ : Type} (react : Receiver ρ) : Receiver (Recorded ρ) :=
  fun notice (recorded, world) =>
    let (answer, receiver, after) := react notice (recorded.receiver, world)
    (answer, ⟨receiver, recorded.calls ++ [⟨notice, answer, after.tree⟩]⟩, after)

/-- What a receiver is told of a section, unless its record or its name is refused. -/
def Section.notice? (closed : Section) : Except DetectionFault Notice :=
  match closed.kind with
  | .type => (DetectedType.ofJson closed.text).map .type
  | .topic => (DetectedTopic.ofJson closed.text).map .topic

namespace Session

variable {ρ : Type}

/-- The text of a captured file, as the files are. -/
def capturedText (tree : FileTree) (path : Text) : Except SessionFault Text :=
  match tree.read path with
  | .error fault => .error (.captured path (.path fault))
  | .ok content =>
    match Utf8.decode? content with
    | some text => .ok text
    | none => .error (.captured path .noText)

/-- The sections of captured files and what is wrong with the first that cannot be read. One decoder
reads them all, and each file is read as it is once the sections before it were told, which the
first argument gives for the number of these. -/
def capturedSections (treeAt : Nat → FileTree) (decoder : Decoder) (told : Nat) :
    List Text → List Section × Option SessionFault
  | [] => ([], none)
  | path :: rest =>
    match capturedText (treeAt told) path with
    | .error fault => ([], some fault)
    | .ok text =>
      let (sections, decoder) := decoder.decodeAll (Text.cut '\n' text)
      let (more, unread) := capturedSections treeAt decoder (told + sections.length) rest
      (sections ++ more, unread)

/-- How a replay ends after a number of its sections: the calls that follow, and the result. -/
inductive ReplayEnd (sections : List Section) (unread : Option SessionFault) (done : Nat) :
    List Call → Except SessionFault Unit → Prop where
  /-- All sections were told, up to the first file that cannot be read. -/
  | all (finished : done = sections.length) :
    ReplayEnd sections unread done [] (unread.elim (.ok ()) .error)
  /-- The next section has no valid record, or declares another name. -/
  | invalid {closed : Section} {fault : DetectionFault} (next : sections[done]? = some closed)
      (invalid : closed.notice? = .error fault) :
    ReplayEnd sections unread done [] (.error (.detection fault))
  /-- The receiver was told of the next section and failed. -/
  | refused {closed : Section} {notice : Notice} {fault : OutputFault} (tree : FileTree)
      (next : sections[done]? = some closed) (told : closed.notice? = .ok notice) :
    ReplayEnd sections unread done [⟨notice, .error fault, tree⟩] (.error (.output fault))

/-- A detection is kept under its name. -/
def keep (notice : Notice) (session : Session ρ) : Session ρ :=
  match notice with
  | .type detected =>
    { session with types := NameMap.insert detected.fullName detected session.types }
  | .topic detected =>
    { session with topics := NameMap.insert detected.name detected session.topics }
  | _ => session

/-- What is kept says nothing about the receiver. -/
@[simp] theorem keep_receiver (notice : Notice) (session : Session ρ) :
    (session.keep notice).receiver = session.receiver := by
  cases notice <;> rfl

/-- A session holds exactly the last detection of every name in some notices. -/
structure Holds (notices : List Notice) (session : Session ρ) : Prop where
  types : ∀ name, List.lookup name session.types = Notice.lastType? notices name
  topics : ∀ name, List.lookup name session.topics = Notice.lastTopic? notices name
  typesOrdered : session.types.IsOrdered
  topicsOrdered : session.topics.IsOrdered

namespace Holds

variable {notices : List Notice} {session : Session ρ}

/-- A detection that is kept is the last one of its name. -/
theorem keep (holds : session.Holds notices) (notice : Notice) :
    (session.keep notice).Holds (notices ++ [notice]) := by
  -- What counts as last after the notice is the notice itself if it has the name.
  have others : ∀ name, Notice.lastType? (notices ++ [notice]) name =
      (notice.type?.filter (·.fullName == name)).or (List.lookup name session.types) := fun name =>
    by rw [Notice.lastType?_concat, holds.types]
  have otherTopics : ∀ name, Notice.lastTopic? (notices ++ [notice]) name =
      (notice.topic?.filter (·.name == name)).or (List.lookup name session.topics) := fun name =>
    by rw [Notice.lastTopic?_concat, holds.topics]
  cases notice with
  | type detected =>
    -- A type takes the place of another in its own map alone.
    refine ⟨fun name => ?_, fun name => (otherTopics name).symm,
      holds.typesOrdered.insert _ _, holds.topicsOrdered⟩
    rw [others, Session.keep, NameMap.lookup_insert]
    by_cases same : name = detected.fullName
    · simp [Notice.type?, same, Option.filter]
    · simp [Notice.type?, same, Ne.symm same, Option.filter]
  | topic detected =>
    refine ⟨fun name => (others name).symm, fun name => ?_,
      holds.typesOrdered, holds.topicsOrdered.insert _ _⟩
    rw [otherTopics, Session.keep, NameMap.lookup_insert]
    by_cases same : name = detected.name
    · simp [Notice.topic?, same, Option.filter]
    · simp [Notice.topic?, same, Ne.symm same, Option.filter]
  -- These are no detections, so the maps stand for the same notices.
  | opened | closed =>
    exact ⟨fun name => (others name).symm, fun name => (otherTopics name).symm,
      holds.typesOrdered, holds.topicsOrdered⟩

/-- The types that are kept stand in the order of their names. -/
theorem types_values (holds : session.Holds notices) :
    session.types.values.Pairwise fun a b => a.order b = .lt := by
  -- An entry stands under the name of its own type, so the order of keys is that of types.
  have named : ∀ entry ∈ session.types, entry.2.fullName = entry.1 := fun entry member =>
    Notice.fullName_of_lastType?
      ((holds.types entry.1).symm.trans (holds.typesOrdered.lookup_of_mem member))
  refine List.pairwise_map.mpr ((List.pairwise_map.mp holds.typesOrdered).imp_of_mem ?_)
  intro a b inA inB less
  rw [DetectedType.order, named a inA, named b inB]
  exact Text.order_eq_lt_iff.mpr less

/-- The topics that are kept stand in the order of their names. -/
theorem topics_values (holds : session.Holds notices) :
    session.topics.values.Pairwise fun a b => a.order b = .lt := by
  -- An entry stands under its own name here too.
  have named : ∀ entry ∈ session.topics, entry.2.name = entry.1 := fun entry member =>
    Notice.name_of_lastTopic?
      ((holds.topics entry.1).symm.trans (holds.topicsOrdered.lookup_of_mem member))
  refine List.pairwise_map.mpr ((List.pairwise_map.mp holds.topicsOrdered).imp_of_mem ?_)
  intro a b inA inB less
  rw [DetectedTopic.order, named a inA, named b inB]
  exact Text.order_eq_lt_iff.mpr less

end Holds

/-- Logging what was not understood changes nothing but the log. -/
theorem noteUnsupported_apply (fullName idl : Text) (session : Session ρ) (world : World) :
    ∃ noted : World, noteUnsupported fullName idl (session, world) = (.ok (), session, noted) := by
  unfold noteUnsupported
  cases Declaration.read idl with
  | ok _ => exact ⟨world, rfl⟩
  | error _ => exact ⟨_, rfl⟩

/-- A captured file is read without changing anything. -/
theorem readCaptured_apply (path : Text) (session : Session ρ) (world : World) :
    readCaptured path (session, world) = (capturedText world.tree path, session, world) := by
  unfold readCaptured capturedText
  rw [Act.bind_of_ok (Act.world_apply _)]
  cases world.tree.read path with
  | error fault => rfl
  | ok content =>
    -- Only a content that is a text is given on; either way nothing was changed.
    cases decoded : Utf8.decode? content <;> simp only [decoded] <;> rfl

/-- Telling of anomalies changes nothing but the log. -/
theorem noteAnomalies_apply (results : List LineResult) (session : Session ρ) (world : World) :
    ∃ noted : World, noteAnomalies results (session, world) = (.ok (), session, noted) ∧
      noted.tree = world.tree := by
  induction results generalizing world with
  | nil => exact ⟨world, rfl, rfl⟩
  | cons result rest ih =>
    unfold noteAnomalies
    cases result.anomaly? with
    | none => exact ih world
    | some anomaly => exact ih _

/-- The session of a receiver that had one call more. -/
def heard (session : Session (Recorded ρ)) (receiver : ρ) (call : Call) : Session (Recorded ρ) :=
  { session with receiver := ⟨receiver, session.receiver.calls ++ [call]⟩ }

/-- A section is refused for its record, refused by the receiver, or kept. -/
inductive Handled (closed : Section) (session : Session (Recorded ρ)) (world : World) :
    Except SessionFault Unit × Session (Recorded ρ) × World → Prop where
  | invalid {fault : DetectionFault} (invalid : closed.notice? = .error fault) :
    Handled closed session world (.error (.detection fault), session, world)
  | refused {notice : Notice} {fault : OutputFault} (told : closed.notice? = .ok notice)
      (receiver : ρ) (after : World) :
    Handled closed session world
      (.error (.output fault), session.heard receiver ⟨notice, .error fault, after.tree⟩, after)
  | kept {notice : Notice} (told : closed.notice? = .ok notice) (receiver : ρ) (after : World) :
    Handled closed session world
      (.ok (), keep notice (session.heard receiver ⟨notice, .ok (), after.tree⟩), after)

/-- After the log a receiver is told of a detection, which is kept if it succeeds. -/
theorem handled_of_notice (react : Receiver ρ) {closed : Section} {notice : Notice}
    {session : Session (Recorded ρ)} {world noted : World} {log : Step (Recorded ρ) Unit}
    (told : closed.notice? = .ok notice) (ran : log (session, world) = (.ok (), session, noted)) :
    Handled closed session world
      ((log >>= fun _ => tell react.recording notice >>= fun _ => Act.change (keep notice))
        (session, world)) := by
  rw [Act.bind_of_ok ran, Act.bind_apply]
  -- The call is recorded with either answer, but only a success is kept.
  rcases answered : react notice (session.receiver.receiver, noted) with
    ⟨_ | fault | _, receiver, after⟩
  · simp only [tell, Receiver.recording, answered]
    exact .refused told receiver after
  · simp only [tell, Receiver.recording, answered]
    exact .kept told receiver after

/-- Every section is handled in one of three ways. -/
theorem handle_handled (react : Receiver ρ) (closed : Section) (session : Session (Recorded ρ))
    (world : World) :
    Handled closed session world (handle react.recording closed (session, world)) := by
  obtain ⟨kind, text⟩ := closed
  cases kind with
  | type =>
    -- A text that is no record ends the section before its receiver is told.
    cases read : DetectedType.ofJson text with
    | error fault =>
      simp only [handle, read]
      exact .invalid (by simp only [Section.notice?, read]; rfl)
    | ok detected =>
      have told : Section.notice? ⟨.type, text⟩ = .ok (.type detected) := by
        simp only [Section.notice?, read]
        rfl
      obtain ⟨noted, ran⟩ := noteUnsupported_apply detected.fullName detected.idl session world
      simp only [handle, read]
      exact handled_of_notice react told ran
  | topic =>
    cases read : DetectedTopic.ofJson text with
    | error fault =>
      simp only [handle, read]
      exact .invalid (by simp only [Section.notice?, read]; rfl)
    | ok detected =>
      have told : Section.notice? ⟨.topic, text⟩ = .ok (.topic detected) := by
        simp only [Section.notice?, read]
        rfl
      obtain ⟨noted, ran⟩ :=
        noteUnsupported_apply detected.type.fullName detected.type.idl session world
      simp only [handle, read]
      exact handled_of_notice react told ran

/-- A receiver was told of sections and accepted them all; after these calls it had only those that
it refused, and the session holds what was accepted. -/
structure Told (sections : List Section) (notices : List Notice) (refused : List Call)
    (session : Session (Recorded ρ)) : Prop where
  detections : sections.map Section.notice? = notices.map .ok
  calls : ∃ accepted, session.receiver.calls = accepted ++ refused ∧
    accepted.map (fun call => (call.notice, call.answer)) =
      notices.map fun notice => (notice, .ok ())
  holds : session.Holds notices

namespace Told

variable {sections : List Section} {notices : List Notice} {session : Session (Recorded ρ)}

/-- Each section has a call. -/
theorem length_calls (told : Told sections notices [] session) :
    session.receiver.calls.length = sections.length := by
  -- Notices are as many as sections, and accepted calls as many as notices.
  obtain ⟨accepted, calls, answers⟩ := told.calls
  have perSection := congrArg List.length told.detections
  have perCall := congrArg List.length answers
  simp only [List.length_map] at perSection perCall
  rw [calls, List.append_nil, perCall, perSection]

/-- A section that is kept adds its detection. -/
theorem kept {closed : Section} {notice : Notice} (told : Told sections notices [] session)
    (detected : closed.notice? = .ok notice) (receiver : ρ) (tree : FileTree) :
    Told (sections ++ [closed]) (notices ++ [notice]) []
      (keep notice (session.heard receiver ⟨notice, .ok (), tree⟩)) := by
  obtain ⟨accepted, calls, answers⟩ := told.calls
  -- Hearing of the detection leaves the maps alone; keeping it is what changes them.
  have holds : (session.heard receiver ⟨notice, .ok (), tree⟩).Holds notices :=
    ⟨told.holds.types, told.holds.topics, told.holds.typesOrdered, told.holds.topicsOrdered⟩
  refine ⟨by simp [told.detections, detected], ⟨accepted ++ [⟨notice, .ok (), tree⟩], ?_, ?_⟩,
    holds.keep notice⟩
  · simp [heard, calls]
  · simp [answers]

/-- A section that the receiver refuses adds its call alone. -/
theorem refused (told : Told sections notices [] session) (receiver : ρ) (call : Call) :
    Told sections notices [call] (session.heard receiver call) := by
  obtain ⟨accepted, calls, answers⟩ := told.calls
  -- The maps are untouched, as the session ends before it keeps what was refused.
  refine ⟨told.detections, ⟨accepted, ?_, answers⟩,
    ⟨told.holds.types, told.holds.topics, told.holds.typesOrdered, told.holds.topicsOrdered⟩⟩
  simp [heard, calls]

end Told

namespace ReplayEnd

variable {sections more : List Section} {unread : Option SessionFault} {done : Nat}
  {refused : List Call} {result : Except SessionFault Unit}

/-- Sections that were told before come before those that end the replay. -/
theorem shift (ends : ReplayEnd more unread done refused result) (sections : List Section) :
    ReplayEnd (sections ++ more) unread (sections.length + done) refused result := by
  -- The section that ends the replay stands as far behind those before it.
  have later : (sections ++ more)[sections.length + done]? = more[done]? := by
    simp [List.getElem?_append_right]
  cases ends with
  | all finished => exact .all (by simp [finished])
  | invalid next invalid => exact .invalid (later.trans next) invalid
  | refused tree next told => exact .refused tree (later.trans next) told

/-- Sections that are never told make no difference to one that is refused. -/
theorem extend {fault : SessionFault} (ends : ReplayEnd sections none done refused (.error fault))
    (more : List Section) (unread : Option SessionFault) :
    ReplayEnd (sections ++ more) unread done refused (.error fault) := by
  -- It stands before all that is added, so it is found there still.
  have earlier {closed : Section} (next : sections[done]? = some closed) :
      (sections ++ more)[done]? = some closed := by
    rw [List.getElem?_append_left (List.getElem?_eq_some_iff.mp next).1, next]
  cases ends with
  | invalid next invalid => exact .invalid (earlier next) invalid
  | refused tree next told => exact .refused tree (earlier next) told

/-- No more sections are told than there are. -/
theorem done_le (ends : ReplayEnd sections unread done refused result) :
    done ≤ sections.length := by
  cases ends with
  | all finished => exact Nat.le_of_eq finished
  | invalid next | refused _ next => exact Nat.le_of_lt (List.getElem?_eq_some_iff.mp next).1

end ReplayEnd

/-- What replays keep: settings, whether the receiver was told of the end, and the calls so far. -/
structure Continues (session later : Session (Recorded ρ)) : Prop where
  settings : later.settings = session.settings
  closed : later.closed = session.closed
  calls : session.receiver.calls <+: later.receiver.calls

/-- What goes on twice goes on. -/
theorem Continues.trans {first middle last : Session (Recorded ρ)} (before : Continues first middle)
    (after : Continues middle last) : Continues first last :=
  ⟨after.settings.trans before.settings, after.closed.trans before.closed,
    before.calls.trans after.calls⟩

/-- A call and what is kept after it go on. -/
theorem Continues.keep (session : Session (Recorded ρ)) (receiver : ρ) (call : Call)
    (notice : Notice) : Continues session (Session.keep notice (session.heard receiver call)) := by
  cases notice <;> exact ⟨rfl, rfl, List.prefix_append _ _⟩

/-- Where a session stands whose receiver accepted all sections so far. -/
structure Stands (start : FileTree) (done : List Section) (session : Session (Recorded ρ))
    (world : World) : Prop where
  told : ∃ notices, Told done notices [] session
  /-- Only the receiver changes files. -/
  tree : world.tree = Call.treeAfter start session.receiver.calls

/-- How more sections end, after those that were told. -/
structure EndsAfter (start : FileTree) (done sections : List Section)
    (unread : Option SessionFault) (session : Session (Recorded ρ))
    (last : Except SessionFault Unit × Session (Recorded ρ) × World) : Prop where
  ends : ∃ k notices refused, Told (done ++ sections.take k) notices refused last.2.1 ∧
    ReplayEnd sections unread k refused last.1
  continues : Continues session last.2.1
  stands : last.1 = .ok () → Stands start (done ++ sections) last.2.1 last.2.2

/-- Sections are told in order, up to the first that is refused. -/
theorem handleAll_ends (react : Receiver ρ) {start : FileTree} {done : List Section}
    {session : Session (Recorded ρ)} {world : World} (stands : Stands start done session world)
    (sections : List Section) :
    EndsAfter start done sections none session
      (handleAll react.recording sections (session, world)) := by
  induction sections generalizing done session world with
  | nil =>
    obtain ⟨notices, told⟩ := stands.told
    -- Without a section nothing is told.
    rw [handleAll, Act.pure_apply]
    exact ⟨⟨0, notices, [], by simpa using told, .all rfl⟩, ⟨rfl, rfl, List.prefix_rfl⟩,
      fun _ => by simpa using stands⟩
  | cons closed rest ih =>
    -- The first section ends the replay, or the session stands one section further.
    obtain ⟨notices, told⟩ := stands.told
    generalize ran : handle react.recording closed (session, world) = handled
    have way := handle_handled react closed session world
    rw [ran] at way
    unfold handleAll
    cases way with
    -- It is refused without a call.
    | invalid invalid =>
      rw [Act.bind_of_error ran]
      exact ⟨⟨0, notices, [], by simpa using told, .invalid rfl invalid⟩,
        ⟨rfl, rfl, List.prefix_rfl⟩, fun ok => by cases ok⟩
    -- It is refused with a call, which is the last one.
    | refused detected receiver after =>
      rw [Act.bind_of_error ran]
      exact ⟨⟨0, notices, _, by simpa using told.refused receiver _, .refused _ rfl detected⟩,
        ⟨rfl, rfl, List.prefix_append _ _⟩, fun ok => by cases ok⟩
    | kept detected receiver after =>
      rw [Act.bind_of_ok ran]
      rename_i notice
      have next : Stands start (done ++ [closed])
          (keep notice (session.heard receiver ⟨notice, .ok (), after.tree⟩)) after := by
        refine ⟨⟨_, told.kept detected receiver after.tree⟩, ?_⟩
        simp [heard, Call.treeAfter]
      -- The rest is told from where this one leaves the session.
      have later := ih next
      obtain ⟨k, notices, refused, told, ends⟩ := later.ends
      refine ⟨⟨1 + k, notices, refused, ?_, ends.shift [closed]⟩,
        (Continues.keep session receiver _ notice).trans later.continues, fun ok => ?_⟩
      · simpa [Nat.add_comm 1 k] using told
      · simpa using later.stands ok

/-- A file is read and logged, then its sections are handled before the next file is read. -/
theorem replay_cons (react : Receiver ρ) (decoder : Decoder) (path : Text) (rest : List Text)
    (session : Session ρ) (world : World) :
    (∃ fault, capturedText world.tree path = .error fault ∧
      replay react decoder (path :: rest) (session, world) = (.error fault, session, world)) ∨
    (∃ text noted, capturedText world.tree path = .ok text ∧ noted.tree = world.tree ∧
      replay react decoder (path :: rest) (session, world) =
        (handleAll react (decoder.decodeAll (Text.cut '\n' text)).1 >>= fun _ =>
          replay react (decoder.decodeAll (Text.cut '\n' text)).2 rest) (session, noted)) := by
  have reads := readCaptured_apply path session world
  -- A file that cannot be read ends the replay; else its anomalies are logged first.
  cases read : capturedText world.tree path with
  | error fault =>
    rw [read] at reads
    exact .inl ⟨fault, rfl, Act.bind_of_error reads⟩
  | ok text =>
    rw [read] at reads
    obtain ⟨noted, anomalies, same⟩ := noteAnomalies_apply
      (decoder.feedAll (Text.cut '\n' text)).1 session
      (world.note .debug .session "loading pregenerated output".toList [("path".toList, path)])
    refine .inr ⟨text, noted, rfl, same, ?_⟩
    rw [replay, Act.bind_of_ok reads, Act.bind_of_ok (Act.note_apply ..)]
    exact Act.bind_of_ok anomalies

/-- Files are replayed in order, up to the first section that is refused or the first file that
cannot be read. -/
theorem replay_ends (react : Receiver ρ) {start : FileTree} {done : List Section}
    {session : Session (Recorded ρ)} {world : World} (stands : Stands start done session world)
    (decoder : Decoder) (files : List Text)
    {last : Except SessionFault Unit × Session (Recorded ρ) × World}
    (ran : replay react.recording decoder files (session, world) = last) :
    let captured := capturedSections
      (fun told => Call.treeAfter start (last.2.1.receiver.calls.take told)) decoder done.length files
    EndsAfter start done captured.1 captured.2 session last := by
  induction files generalizing done session world decoder with
  | nil =>
    obtain ⟨notices, told⟩ := stands.told
    -- No file is left, so nothing more is captured.
    rw [replay, Act.pure_apply] at ran
    subst ran
    exact ⟨⟨0, notices, [], by simpa [capturedSections] using told, .all rfl⟩,
      ⟨rfl, rfl, List.prefix_rfl⟩, fun _ => by simpa [capturedSections] using stands⟩
  | cons path rest ih =>
    obtain ⟨notices, told⟩ := stands.told
    -- The calls of the sections so far tell how the files are when this one is read.
    have current (later : session.receiver.calls <+: last.2.1.receiver.calls) :
        capturedText (Call.treeAfter start (last.2.1.receiver.calls.take done.length)) path =
          capturedText world.tree path := by
      rw [← told.length_calls, ← List.prefix_iff_eq_take.mp later, stands.tree]
    rcases replay_cons react.recording decoder path rest session world with
      ⟨fault, unread, ends⟩ | ⟨text, noted, read, same, goesOn⟩
    · -- Nothing was told since, so the files are those that the captured text is read from.
      obtain rfl := ends.symm.trans ran
      simp only [capturedSections, current List.prefix_rfl, unread]
      exact ⟨⟨0, notices, [], by simpa using told, .all rfl⟩, ⟨rfl, rfl, List.prefix_rfl⟩,
        fun ok => by cases ok⟩
    · have here : Stands start done session noted := ⟨stands.told, same.trans stands.tree⟩
      have fileEnds := handleAll_ends react here (decoder.decodeAll (Text.cut '\n' text)).1
      rw [goesOn] at ran
      rcases handled : handleAll react.recording (decoder.decodeAll (Text.cut '\n' text)).1
        (session, noted) with ⟨fault | _, session', world'⟩
      · -- A section of this file is refused, and no further file is read.
        rw [Act.bind_of_error handled] at ran
        subst ran
        rw [handled] at fileEnds
        obtain ⟨k, notices, refused, told, ends⟩ := fileEnds.ends
        simp only [capturedSections, current fileEnds.continues.calls, read]
        refine ⟨⟨k, notices, refused, ?_, ends.extend _ _⟩, fileEnds.continues,
          fun ok => by cases ok⟩
        rwa [List.take_append_of_le_length ends.done_le]
      · -- The sections of this file were all told, and the decoder goes on to the next file.
        rw [Act.bind_of_ok handled] at ran
        rw [handled] at fileEnds
        have later := ih (fileEnds.stands rfl) _ ran
        have continues := fileEnds.continues.trans later.continues
        obtain ⟨k, notices, refused, told, ends⟩ := later.ends
        simp only [capturedSections, current continues.calls, read]
        rw [List.length_append] at told ends
        refine ⟨⟨_, notices, refused, ?_, ends.shift _⟩, continues, fun ok => ?_⟩
        · rwa [List.take_length_add_append, ← List.append_assoc]
        · simpa [List.append_assoc] using later.stands ok

/-- A run that has nothing but captured files ends as their replay does. -/
theorem run_of_captured (react : Receiver ρ) (around : Surroundings) (session : Session ρ)
    (world : World) (noDomains : session.settings.domains = [])
    (noInputs : session.settings.inputs = []) (noDirectories : session.settings.directories = [])
    (settings : ((replay react {} session.settings.captured) (session, world)).2.1.settings =
      session.settings) :
    ∃ noted, run react around (session, world) =
      ((replay react {} session.settings.captured (session, world)).1,
        (replay react {} session.settings.captured (session, world)).2.1, noted) := by
  unfold run
  rw [Act.bind_of_ok (Act.own_apply _)]
  rcases ran : replay react {} session.settings.captured (session, world) with
    ⟨fault | _, session', world'⟩
  · exact ⟨world', Act.bind_of_error ran⟩
  · replace settings : session'.settings = session.settings := by rwa [ran] at settings
    -- Without folders the scan logs nothing and finds nothing.
    have scanned : scan (session', world') = (.ok [], session', world') := by
      rw [scan, Act.bind_of_ok (Act.world_apply _), Act.bind_of_ok (Act.own_apply _), settings,
        noDirectories]
      rfl
    have idle : hasWork session'.settings [] = false := by
      simp [hasWork, settings, noDomains, noInputs]
    refine ⟨world'.note .info .session "nothing to scrape".toList, ?_⟩
    rw [Act.bind_of_ok ran, Act.bind_of_ok scanned, Act.bind_of_ok (Act.own_apply _), idle]
    rfl

/-- A request is noted in the context and in the log. -/
theorem requestStop_apply (session : Session ρ) (world : World) :
    ∃ noted, requestStop (session, world) =
      (.ok (), { session with context := session.context.requestStop }, noted) := by
  rw [requestStop, Act.bind_of_ok (Act.own_apply _)]
  -- Whether it is the first request only decides what is logged.
  cases session.context.stopped with
  | true => exact ⟨world, rfl⟩
  | false =>
    refine ⟨world.note .info .stopping "stop requested".toList, ?_⟩
    rfl

/-- A stop of a session whose receiver was told of the end calls nobody. -/
theorem stop_of_closed (react : Receiver ρ) {session : Session ρ} (world : World)
    (closed : session.closed = true) :
    (stop react (session, world)).2.1.receiver = session.receiver ∧
      (stop react (session, world)).2.1.closed = true := by
  obtain ⟨noted, requested⟩ := requestStop_apply session world
  -- The flag is looked at after the request, and nothing else is done.
  rw [stop, Act.bind_of_ok requested, Act.bind_of_ok (Act.own_apply _)]
  simp [closed]

/-- The first stop tells the receiver of the end, with all that is kept. -/
theorem stop_of_open (react : Receiver ρ) {session : Session (Recorded ρ)} (world : World)
    (notClosed : session.closed = false) :
    ∃ call : Call, call.notice = .closed session.types.values session.topics.values ∧
      (stop react.recording (session, world)).2.1.receiver.calls =
        session.receiver.calls ++ [call] ∧
      (stop react.recording (session, world)).2.1.closed = true := by
  obtain ⟨noted, requested⟩ := requestStop_apply session world
  rw [stop, Act.bind_of_ok requested, Act.bind_of_ok (Act.own_apply _),
    if_neg (by simp [notClosed])]
  -- The session is closed before the receiver is told, whatever that answers.
  rcases answered : react (.closed session.types.values session.topics.values)
    (session.receiver.receiver, noted) with ⟨answer, receiver, after⟩
  refine ⟨⟨.closed session.types.values session.topics.values, answer, after.tree⟩, rfl, ?_⟩
  simp [Act.bind_apply, tell, Receiver.recording, answered]

/-- Of any number of stops the first one alone tells the receiver of the end, with all that is
kept. -/
theorem stops_of_open (react : Receiver ρ) {session : Session (Recorded ρ)} (world : World)
    (notClosed : session.closed = false) :
    ∃ call : Call, call.notice = .closed session.types.values session.topics.values ∧
      ∀ more, (Nat.repeat (fun state => (stop react.recording state).2) (more + 1)
        (session, world)).1.receiver.calls = session.receiver.calls ++ [call] := by
  obtain ⟨call, notice, calls, closed⟩ := stop_of_open react world notClosed
  refine ⟨call, notice, fun more => ?_⟩
  -- The first stop closes the session, and a closed one is left alone.
  have after : ∀ more, (Nat.repeat (fun state => (stop react.recording state).2) (more + 1)
      (session, world)).1.receiver.calls = session.receiver.calls ++ [call] ∧
      (Nat.repeat (fun state => (stop react.recording state).2) (more + 1)
        (session, world)).1.closed = true := by
    intro more
    -- One more stop finds a session that was closed by the first.
    induction more with
    | zero => exact ⟨calls, closed⟩
    | succ more ih =>
      rw [Nat.repeat]
      obtain ⟨same, closed⟩ := stop_of_closed react.recording (Nat.repeat
        (fun state => (stop react.recording state).2) (more + 1) (session, world)).2 ih.2
      exact ⟨(congrArg Recorded.calls same).trans ih.1, closed⟩
  exact (after more).1

/-- A run that has nothing but captured files tells the receiver of their sections in order and of
nothing else, up to the first section that is refused or the first file that cannot be read; the
session holds exactly the last detection of each name that was accepted; and the first of any number
of stops tells the receiver of these, once and in the order of their names. -/
theorem replay_follows_sections {ρ : Type} (react : Receiver ρ) (around : Surroundings)
    (settings : Settings) (context : Context) (receiver : ρ) (world : World)
    (noDomains : settings.domains = []) (noInputs : settings.inputs = [])
    (noDirectories : settings.directories = []) :
    let last := run react.recording around ({ settings, context, receiver := { receiver } }, world)
    let session := last.2.1
    let captured := capturedSections
      (fun told => Call.treeAfter world.tree (session.receiver.calls.take told)) {} 0
      settings.captured
    (∃ k notices refused, k ≤ captured.1.length ∧
      Told (captured.1.take k) notices refused session ∧
      ReplayEnd captured.1 captured.2 k refused last.1) ∧
    (∃ call : Call, call.notice = .closed session.types.values session.topics.values ∧
      session.types.values.Pairwise (fun a b => a.order b = .lt) ∧
      session.topics.values.Pairwise (fun a b => a.order b = .lt) ∧
      ∀ more, (Nat.repeat (fun state => (stop react.recording state).2) (more + 1)
        last.2).1.receiver.calls = session.receiver.calls ++ [call]) := by
  intro last session captured
  let first : Session (Recorded ρ) := { settings, context, receiver := { receiver } }
  have stands : Stands world.tree [] first world :=
    -- At the start nothing was told, and the maps are empty.
    ⟨⟨[], rfl, ⟨[], rfl, rfl⟩, fun _ => rfl, fun _ => rfl, .nil, .nil⟩, rfl⟩
  have ends := replay_ends react stands {} settings.captured rfl
  obtain ⟨noted, ran⟩ := run_of_captured react.recording around first world noDomains
    noInputs noDirectories ends.continues.settings
  rcases replayed : replay react.recording {} settings.captured (first, world) with
    ⟨result, kept, after⟩
  rw [replayed] at ends
  -- What comes after the replay adds to the log alone.
  replace ran : last = (result, kept, noted) := by simpa only [first, replayed] using ran
  clear_value last
  subst ran
  obtain ⟨k, notices, refused, told, ends'⟩ := ends.ends
  refine ⟨⟨k, notices, refused, ends'.done_le, told, ends'⟩, ?_⟩
  obtain ⟨call, notice, calls⟩ := stops_of_open react noted ends.continues.closed
  exact ⟨call, notice, told.holds.types_values, told.holds.topics_values, calls⟩

/-- A captured file of one topic is replayed to a receiver that takes everything: it is told of the
topic, and of the end with the topic however often the session is stopped. -/
theorem replay_follows_sections_of_one_topic :
    let record := "\x7b\"name\": \"t\", \"type_name\": \"x\", \"idl\": \"\"\x7d".toList
    let topic : DetectedTopic := ⟨['t'], ⟨['x'], [], none⟩⟩
    let lines := [(Marker.opening .topic).text, record, (Marker.closing .topic).text]
    let captured := Entry.file (Utf8.encode (Text.join ['\n'] lines)) false
    let settings : Settings := { captured := [['a']] }
    let world : World := { tree := ⟨[([['a']], captured)], []⟩ }
    let react : Receiver Unit := fun _ state => (.ok (), state)
    let around : Surroundings := {}
    let last := run react.recording around ({ settings, receiver := { receiver := () } }, world)
    settings.domains = [] ∧ settings.inputs = [] ∧ settings.directories = [] ∧
      last.1.isOk = true ∧
      ∀ more, (Nat.repeat (fun state => (stop react.recording state).2) (more + 1)
        last.2).1.receiver.calls.map Call.notice = [.topic topic, .closed [] [topic]] := by
  intro record topic lines captured settings world react around last
  have ran : last.1.isOk = true ∧ last.2.1.types = [] ∧ last.2.1.topics = [(['t'], topic)] ∧
      last.2.1.receiver.calls.map Call.notice = [.topic topic] := by
    decide +kernel
  obtain ⟨result, types, topics, notices⟩ := ran
  obtain ⟨-, call, ends, -, -, calls⟩ :=
    replay_follows_sections react around settings {} () world rfl rfl rfl
  refine ⟨rfl, rfl, rfl, result, fun more => ?_⟩
  rw [calls more, List.map_append, List.map_singleton, notices, ends, types, topics]
  rfl

end Session
end IdlScout
