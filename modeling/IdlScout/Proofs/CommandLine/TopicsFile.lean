import IdlScout.CommandLine.Program
import IdlScout.Proofs.Emission.TopicsFile

/-! The topics file that a command line asks for: what it holds when the program has ended. -/

namespace IdlScout

namespace Choices

/-- The paths that interface text goes to beside a map of topics. -/
def textPaths (choices : Choices) (home : Location) (notices : List Notice) : List Text :=
  if choices.topicsOnly then []
  else choices.idlEmitter.target.options.textPaths home notices

/-- Unless a list is wanted, a topics file has the first receiver, and interface text goes to the
others. -/
theorem emitters_of_topicsList {choices : Choices} {path : Text}
    (wanted : choices.topicsList = some path) (notList : choices.list = false) :
    ∃ options others, choices.emitters = ⟨.topics choices.mapFormat [], { options }⟩ :: others ∧
      options.path = some path ∧ options.split = false ∧
      (options.append = true → choices.topicsOnly = true ∧ choices.append = true) ∧
      ∀ home notices, ∀ other ∈ others,
        other.IsFreshText home notices (choices.textPaths home notices) := by
  unfold emitters textPaths
  rw [if_neg (by simp [notList])]
  cases only : choices.topicsOnly with
  | true =>
    -- The topics file is the single output then, and no interface text is written.
    refine ⟨_, [], rfl, ?_, rfl, fun append => ⟨rfl, append⟩, by simp⟩
    rw [wanted]
    rfl
  | false =>
    rw [wanted]
    refine ⟨_, [choices.idlEmitter], rfl, rfl, rfl, nofun, fun home notices other member => ?_⟩
    rw [List.mem_singleton.mp member]
    exact ⟨_, _, _, rfl, List.Subset.refl _⟩

end Choices

namespace Program

open FileTree (Avoids)

variable {κ : Type} [ChildKind κ] {rule : StopRule κ}

/-- What the receivers of a run are told, with the files before and after each time. -/
def exchanges (rule : StopRule κ) (invocation : Invocation) (world : World) : List Exchange :=
  match Choices.read invocation.arguments with
  | .error _ => []
  | .ok choices =>
    match settingsOf choices world with
    | .error _ => []
    | .ok settings =>
      match Session.begin settings.withDefaultDomain choices.emitters
        (noteDefaultDomain settings world) with
      | .error _ => []
      | .ok (session, world) =>
        Session.exchanges Emitter.reactAll (surroundings rule invocation choices) session
          (noteLimit choices.exitAfter world)

/-- A step that does not fail while the program is busy does not fail by itself. -/
theorem of_during {ρ : Type} {activity : String} {step : Session.Step ρ Unit}
    {state after : Session ρ × World} (ran : during activity step state = (.ok (), after)) :
    step state = (.ok (), after) := by
  -- A failure is told by another name, so that a good end is the step's own.
  unfold during at ran
  rcases stepped : step state with ⟨fault | _, last⟩
  · rw [stepped] at ran
    cases ran
  · rw [stepped] at ran
    cases ran
    rfl

/-- A step that is followed by others has come to its end. -/
theorem of_during_bind {ρ : Type} {activity : String} {step : Session.Step ρ Unit}
    {next : Unit → Act (Session ρ) Failure Unit} {state after : Session ρ × World}
    (ran : (during activity step >>= next) state = (.ok (), after)) :
    ∃ middle, step state = (.ok (), middle) ∧ next () middle = (.ok (), after) := by
  rw [Act.bind_apply] at ran
  -- The next step is only taken after a good end.
  rcases stepped : during activity step state with ⟨fault | _, middle⟩
  · rw [stepped] at ran
    cases ran
  · rw [stepped] at ran
    exact ⟨middle, of_during stepped, ran⟩

/-- A session that succeeds goes through start, run and stop. -/
theorem whole_of_runSession {around : Surroundings κ}
    {state after : Session (List Emitter) × World}
    (ran : runSession around state = (.ok (), after)) :
    Session.whole Emitter.reactAll around state = (.ok (), after) := by
  obtain ⟨begun, starts, ran⟩ := of_during_bind ran
  obtain ⟨done, runs, ran⟩ := of_during_bind ran
  rw [Session.whole, Act.bind_of_ok starts, Act.bind_of_ok runs]
  exact of_during ran

/-- Telling of a time limit changes no file. -/
theorem noteLimit_tree (limit : Option TimeLimit) (world : World) :
    (noteLimit limit world).tree = world.tree := by
  cases limit <;> rfl

/-- Telling of the usual domain changes no file. -/
theorem noteDefaultDomain_tree (settings : Settings) (world : World) :
    (noteDefaultDomain settings world).tree = world.tree := by
  unfold noteDefaultDomain
  split <;> rfl

/-- A session that begins has its settings and its receiver, and no file was changed. -/
theorem of_begin {settings : Settings} {receiver : List Emitter} {world begun : World}
    {session : Session (List Emitter)}
    (begins : Session.begin settings receiver world = .ok (session, begun)) :
    session.settings = settings ∧ session.receiver = receiver ∧ session.closed = false ∧
      begun.tree = world.tree := by
  -- A session begins only with settings that pass the check.
  unfold Session.begin at begins
  cases checked : settings.check with
  | error fault => simp [checked] at begins
  | ok =>
    rw [checked] at begins
    cases begins
    refine ⟨rfl, rfl, rfl, ?_⟩
    -- Notes go to the log.
    unfold Session.noteDirectories Session.noteCaptured
    split <;> split <;> rfl

/-- In a run that succeeds the receivers accept everything that they are told. If the settings give
a child nothing to do, then no file was changed from one exchange to the next. -/
theorem exchanges_of_run {invocation : Invocation} {world : World} {choices : Choices}
    (accepted : Choices.read invocation.arguments = .ok choices)
    (succeeded : (runWith rule invocation world).exitCode = 0) :
    ∃ settings opened detections closed last, settingsOf choices world = .ok settings ∧
      exchanges rule invocation world = opened :: detections ++ [closed] ∧
      Receiver.Attends Emitter.reactAll choices.emitters world.tree opened detections closed last
        (runWith rule invocation world).world.tree ∧
      (settings.withDefaultDomain.IsIdle →
        Undisturbed (exchanges rule invocation world)
          (runWith rule invocation world).world.tree) := by
  unfold runWith at succeeded ⊢
  unfold exchanges
  simp only [accepted] at succeeded ⊢
  cases loaded : settingsOf choices world with
  | error failure => simp [loaded] at succeeded
  | ok settings =>
    -- A run that ends well has read its settings and come to the end of the session.
    rcases executed : execute rule invocation choices settings world with ⟨fault | _, after⟩
    · simp [loaded, executed] at succeeded
    simp only [executed]
    -- The session begins, or the program fails before it.
    unfold execute at executed
    cases begins : Session.begin settings.withDefaultDomain choices.emitters
      (noteDefaultDomain settings world) with
    | error fault => simp [begins] at executed
    | ok begun =>
      obtain ⟨session, begun⟩ := begun
      simp only [begins] at executed
      rcases ran : runSession (surroundings rule invocation choices)
        (session, noteLimit choices.exitAfter begun) with ⟨result, last, done⟩
      simp only [ran] at executed
      cases executed
      -- Before the first exchange only notes were taken, which change no file.
      obtain ⟨same, receiver, notClosed, tree⟩ := of_begin begins
      obtain ⟨opened, detections, closed, whole, attends, undisturbed⟩ :=
        Session.exchanges_of_whole notClosed (whole_of_runSession ran)
      rw [receiver, noteLimit_tree, tree, noteDefaultDomain_tree] at attends
      rw [same, ← whole] at undisturbed
      exact ⟨settings, opened, detections, closed, last.receiver, rfl, whole, attends, undisturbed⟩

/-- A topics file that is asked for without a list is written by every run that succeeds: it holds
the map of all topics that were detected, in the format of the other arguments and each with the
type of its last detection. What the file held before stands in front of it only if it is the single
output and is to be appended to. This is so wherever nothing is lost that is written to the file, no
path of interface text leads to it too, and a child, if there is anything for it to do, avoids the
files of the run between what the receivers are told. What kind of child it is, and when it is
stopped, makes no difference. -/
theorem topics_file_holds_map {κ : Type} [ChildKind κ] (rule : StopRule κ)
    (invocation : Invocation) (world : World) (choices : Choices) (path : Text)
    (accepted : Choices.read invocation.arguments = .ok choices)
    (wanted : choices.topicsList = some path) (notList : choices.list = false)
    (succeeded : (runWith rule invocation world).exitCode = 0) :
    let notices := (exchanges rule invocation world).map Exchange.notice
    let others := choices.textPaths world.tree.home notices
    let after := (runWith rule invocation world).world.tree
    ((∃ settings, settingsOf choices world = .ok settings ∧ settings.withDefaultDomain.IsIdle) ∨
      (exchanges rule invocation world).IsChain fun earlier next =>
        Avoids path others earlier.after next.before) →
    (∀ place, after.find path ≠ .ok (place, .void)) →
    (∀ other ∈ others, after.locate true other ≠ after.locate true path) →
    ∃ (topics : TopicMap) (kept : Bytes), topics.IsOrdered ∧
      (∀ topic, topics.lookup topic = Notice.lastTypeName? notices topic) ∧
      after.read path =
        .ok (kept ++ Utf8.encode (Target.ended (topics.print choices.mapFormat))) ∧
      (kept = [] ∨ choices.topicsOnly = true ∧ choices.append = true ∧ ∃ place executable,
        after.locate true path = .ok (.present place) ∧
        world.tree.entry? place = some (.file kept executable)) := by
  intro notices others after childless lossless apart
  -- The run is the exchanges from the opening to the closing one.
  obtain ⟨settings, opened, detections, closed, last, loaded, whole, attends, undisturbed⟩ :=
    exchanges_of_run accepted succeeded
  have calm : (exchanges rule invocation world).IsChain fun earlier next =>
      Avoids path others earlier.after next.before := by
    rcases childless with ⟨other, alsoLoaded, idle⟩ | calm
    · obtain rfl : settings = other := by simpa [loaded] using alsoLoaded
      -- Files that nobody changed were avoided.
      refine (undisturbed idle).between.imp fun earlier next same => ?_
      rw [show earlier.after = next.before from same]
      exact .refl ..
    · exact calm
  -- The receiver of topics comes first, so its file is opened before any other.
  obtain ⟨options, texts, emitters, given, single, appends, fresh⟩ :=
    Choices.emitters_of_topicsList wanted notList
  rw [emitters] at attends
  have noticed : (opened :: detections ++ [closed]).map Exchange.notice = notices := by
    rw [← whole]
  rw [whole] at calm
  obtain ⟨topics, kept, ordered, lasts, reads, keeps⟩ := Emitter.map_of_attends given single attends
    (noticed ▸ fresh world.tree.home notices) calm lossless apart
  refine ⟨topics, kept, ordered, noticed ▸ lasts, reads, keeps.imp_right fun ⟨append, rest⟩ => ?_⟩
  obtain ⟨only, appended⟩ := appends append
  exact ⟨only, appended, rest⟩

/-- A captured file with the sections of one topic, which has one type after the other. -/
def capturedTopic (types : List String) : Entry :=
  let section_ (type : String) : List Text := [(Marker.opening .topic).text,
    ("\x7b\"name\": \"t\", \"type_name\": \"" ++ type ++ "\", \"idl\": \"\"\x7d").toList,
    (Marker.closing .topic).text]
  .file (Utf8.encode (Text.join ['\n'] (types.flatMap section_))) false

/-- The file of a topic whose type has changed names the later type, beside the interface text. -/
theorem topics_file_holds_map_of_one_topic :
    let arguments := ["-p", "cap.txt", "-o", "x.idl", "-T", "t.json"].map String.toList
    let world : World :=
      { tree := ⟨[(["cap.txt".toList], capturedTopic ["x", "y"])], []⟩ }
    (run { arguments } world).exitCode = 0 ∧
      ∃ topics : TopicMap, topics.lookup ['t'] = some ['y'] ∧
        (run { arguments } world).world.tree.read "t.json".toList =
          .ok (Utf8.encode (Target.ended (topics.print (.json (.indented 2))))) := by
  unfold run
  intro arguments world
  let choices : Choices := {
    settings := { captured := ["cap.txt".toList] }
    output := some "x.idl".toList
    topicsList := some "t.json".toList }
  have accepted : Choices.read arguments = .ok choices := by decide +kernel
  have holds := topics_file_holds_map stopWhen { arguments } world choices "t.json".toList
    accepted rfl rfl
  have facts : (runWith stopWhen { arguments } world).exitCode = 0 ∧
      ((runWith stopWhen { arguments } world).world.tree.find
        "t.json".toList).toOption.map Prod.snd ≠ some .void ∧
      (∀ other ∈ choices.textPaths world.tree.home
          ((exchanges stopWhen { arguments } world).map Exchange.notice),
        (runWith stopWhen { arguments } world).world.tree.locate true other ≠
          (runWith stopWhen { arguments } world).world.tree.locate true "t.json".toList) ∧
      Notice.lastTypeName? ((exchanges stopWhen { arguments } world).map Exchange.notice) ['t'] =
        some ['y'] := by
    decide +kernel
  -- From here on only what was found of the run is used, not how it came about.
  generalize runWith stopWhen { arguments } world = report at holds facts ⊢
  generalize exchanges stopWhen { arguments } world = told at holds facts
  obtain ⟨succeeded, stands, apart, last⟩ := facts
  obtain ⟨topics, kept, -, lasts, reads, keeps⟩ := holds succeeded (.inl ⟨_, rfl, rfl, rfl, rfl⟩)
    (fun place lost => stands (by rw [lost]; rfl)) apart
  rcases keeps with rfl | ⟨only, -⟩
  · exact ⟨succeeded, topics, (lasts ['t']).trans last, reads⟩
  · cases only

/-- A topics file that interface text goes to as well is no map at the end: what the text wrote of a
longer file stays behind the map. -/
theorem shared_topics_file_is_no_map :
    let arguments := ["-p", "cap.txt", "-T", "t", "-o", "t", "-O"].map String.toList
    let world : World := { tree := ⟨[(["cap.txt".toList], capturedTopic ["x", "y"])], []⟩ }
    let report := run { arguments } world
    report.exitCode = 0 ∧
      report.world.tree.read ['t'] =
        .ok (Utf8.encode "\x7b\n  \"t\": \"y\"\n\x7d\n @ \"t\"\n".toList) := by
  decide +kernel

/-- A list is written alone: a topics file that is asked for beside it is not even made, although a
topic was detected and nothing failed. -/
theorem list_drops_topics_file :
    let arguments := ["-p", "cap.txt", "-l", "-T", "t.json"].map String.toList
    let world : World := { tree := ⟨[(["cap.txt".toList], capturedTopic ["x"])], []⟩ }
    let report := run { arguments } world
    (Choices.read arguments).toOption.bind Choices.topicsList = some "t.json".toList ∧
      report.exitCode = 0 ∧
      Notice.lastTypeName? ((exchanges stopWhen { arguments } world).map Exchange.notice) ['t'] =
        some ['x'] ∧
      report.world.tree.find "t.json".toList = .error .missing := by
  decide +kernel

end Program
end IdlScout
