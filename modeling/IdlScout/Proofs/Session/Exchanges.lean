import IdlScout.Proofs.Act
import IdlScout.Session.Run
import Mathlib.Data.List.Chain

/-! What the receiver of a session is told, with the files before and after each time. A session
goes on in the same way when this is recorded, so what every exchange upholds holds after a run. -/

namespace IdlScout

/-- The notice of a detection. -/
def Notice.IsDetection : Notice → Prop
  | .type _ | .topic _ => True
  | .opened | .closed _ _ => False

/-- An exchange with a receiver: what it is told, and the files before and after. A child may have
changed them since the exchange before. -/
structure Exchange where
  notice : Notice
  before : FileTree
  after : FileTree

/-- A receiver with the exchanges that it had. -/
structure Attended (ρ : Type) where
  receiver : ρ
  exchanges : List Exchange := []

variable {ρ κ : Type} [ChildKind κ]

/-- A receiver whose exchanges are recorded, and that reacts to them as before. -/
def Receiver.attending (react : Receiver ρ) : Receiver (Attended ρ) :=
  fun notice (attended, world) =>
    let (answer, receiver, after) := react notice (attended.receiver, world)
    (answer, ⟨receiver, attended.exchanges ++ [⟨notice, world.tree, after.tree⟩]⟩, after)

/-- What holds of a receiver, its exchanges and the files holds after one more detection that the
receiver accepts. -/
def Receiver.Upholds (react : Receiver ρ) (wish : Attended ρ → FileTree → Prop) : Prop :=
  ∀ notice attended world receiver after, notice.IsDetection → wish attended world.tree →
    react notice (attended.receiver, world) = (.ok (), receiver, after) →
    wish ⟨receiver, attended.exchanges ++ [⟨notice, world.tree, after.tree⟩]⟩ after.tree

/-- What is wished of a receiver and its exchanges does not depend on the files. -/
def IsLasting (wish : Attended ρ → FileTree → Prop) : Prop :=
  ∀ attended before after, wish attended before → wish attended after

/-- The files were as they are since the last of some exchanges, and from each to the next. -/
structure Undisturbed (exchanges : List Exchange) (tree : FileTree) : Prop where
  between : exchanges.IsChain fun earlier next => earlier.after = next.before
  since : ∀ exchange ∈ exchanges.getLast?, exchange.after = tree

/-- An exchange is one more. -/
theorem Undisturbed.concat {exchanges : List Exchange} {before : FileTree}
    (undisturbed : Undisturbed exchanges before) (notice : Notice) (after : FileTree) :
    Undisturbed (exchanges ++ [⟨notice, before, after⟩]) after := by
  refine ⟨List.isChain_append.mpr ⟨undisturbed.between, .singleton _, ?_⟩, by simp⟩
  -- Only the last exchange and the new one meet where the lists do.
  intro earlier last next first
  obtain rfl : ⟨notice, before, after⟩ = next := by simpa using first
  exact undisturbed.since earlier last

/-- Settings under which there is nothing for a child to do. -/
structure Settings.IsIdle (settings : Settings) : Prop where
  domains : settings.domains = []
  inputs : settings.inputs = []
  directories : settings.directories = []

namespace Session

/-- The session without the exchanges. -/
def plain (session : Session (Attended ρ)) : Session ρ :=
  { session with receiver := session.receiver.receiver }

/-- A session whose exchanges are recorded stands as the one without, has some settings, is not
closed, and what is wished of its receiver and the files holds. -/
structure Alike (settings : Settings) (wish : Attended ρ → FileTree → Prop)
    (attended : Session (Attended ρ) × World) (plain : Session ρ × World) : Prop where
  session : plain.1 = attended.1.plain
  world : plain.2 = attended.2
  settings : attended.1.settings = settings
  notClosed : attended.1.closed = false
  wished : wish attended.1.receiver attended.2.tree

variable {settings : Settings} {wish : Attended ρ → FileTree → Prop}

/-- The session without the exchanges has the same settings. -/
theorem Alike.plainSettings {attended : Session (Attended ρ) × World} {plain : Session ρ × World}
    (alike : Alike settings wish attended plain) : plain.1.settings = settings := by
  rw [alike.session, Session.plain, alike.settings]

/-- Sessions that stand alike have the same context. -/
theorem Alike.context {attended : Session (Attended ρ) × World} {plain : Session ρ × World}
    (alike : Alike settings wish attended plain) : plain.1.context = attended.1.context := by
  rw [alike.session, Session.plain]

section Parts

/-- The world is the same for both. -/
theorem along_world :
    (Act.world : Step (Attended ρ) World).Along (Alike settings wish) Act.world := by
  -- Both worlds are one, so reading it gives one value.
  rintro first ⟨session, world⟩ value after alike ran
  cases ran
  exact ⟨first, by rw [Act.world_apply, ← alike.world], alike⟩

/-- The world changes in the same way for both, if what is wished is not affected. -/
theorem along_changeWorld {f : World → World}
    (keeps : ∀ attended world, wish attended world.tree → wish attended (f world).tree) :
    (Act.changeWorld f : Step (Attended ρ) Unit).Along (Alike settings wish)
      (Act.changeWorld f) := by
  rintro ⟨first, world⟩ ⟨session, other⟩ value after alike ran
  cases ran
  exact ⟨(first, f world), rfl, alike.session, congrArg f alike.world, alike.settings,
    alike.notClosed, keeps _ _ alike.wished⟩

/-- A change of a session that has nothing to do with its receiver. -/
theorem along_change {f : Session (Attended ρ) → Session (Attended ρ)} {g : Session ρ → Session ρ}
    (same : ∀ session, g session.plain = (f session).plain)
    (kept : ∀ session, (f session).settings = session.settings)
    (closed : ∀ session, (f session).closed = session.closed)
    (receiver : ∀ session, (f session).receiver = session.receiver) :
    (Act.change f : Step (Attended ρ) Unit).Along (Alike settings wish) (Act.change g) := by
  rintro ⟨first, world⟩ ⟨session, other⟩ value after alike ran
  cases ran
  -- The parts that sessions stand alike in are those that the change keeps.
  refine ⟨(f first, world), rfl, ?_, alike.world, (kept first).trans alike.settings,
    (closed first).trans alike.notClosed, ?_⟩
  · rw [← same first, ← alike.session]
  · show wish (f first).receiver world.tree
    rw [receiver]
    exact alike.wished

theorem along_note {level : Level} {area : Area} {message : Text}
    {fields : List (Text × Text)} :
    (Act.note level area message fields : Step (Attended ρ) Unit).Along (Alike settings wish)
      (Act.note level area message fields) :=
  along_changeWorld fun _ _ wished => (World.note_tree ..).symm ▸ wished

/-- The files are replaced alike. -/
theorem along_setTree (lasts : IsLasting wish) (tree : FileTree) :
    (Act.setTree tree : Step (Attended ρ) Unit).Along (Alike settings wish) (Act.setTree tree) :=
  along_changeWorld fun _ _ => lasts _ _ _

/-- Events are logged alike. -/
theorem along_noteAll (events : List LogEvent) :
    (noteAll events : Step (Attended ρ) Unit).Along (Alike settings wish) (noteAll events) := by
  induction events with
  | nil => exact .pure ()
  | cons event rest ih => exact along_note.bind fun _ => ih

theorem along_noteMessages (found : List (Text × Text)) :
    (noteMessages found : Step (Attended ρ) Unit).Along (Alike settings wish)
      (noteMessages found) := by
  induction found with
  | nil => exact .pure ()
  | cons message rest ih => exact along_note.bind fun _ => ih

theorem along_noteAnomalies (results : List LineResult) :
    (noteAnomalies results : Step (Attended ρ) Unit).Along (Alike settings wish)
      (noteAnomalies results) := by
  induction results with
  | nil => exact .pure ()
  | cons result rest ih =>
    unfold noteAnomalies
    cases result.anomaly? with
    | none => exact ih
    | some anomaly => exact along_note.bind fun _ => ih

/-- What was not understood is logged alike. -/
theorem along_noteUnsupported (fullName idl : Text) :
    (noteUnsupported fullName idl : Step (Attended ρ) Unit).Along (Alike settings wish)
      (noteUnsupported fullName idl) := by
  -- Whether a text is understood does not depend on the session.
  unfold noteUnsupported
  cases Declaration.read idl with
  | ok => exact .pure ()
  | error => exact along_note

/-- A detection is refused for both. -/
theorem along_accept {α : Type} (read : Except DetectionFault α) :
    (accept read : Step (Attended ρ) α).Along (Alike settings wish) (accept read) := by
  cases read with
  | ok detected => exact .pure detected
  | error fault => exact .throw _ _

/-- A captured file is read alike. -/
theorem along_readCaptured (path : Text) :
    (readCaptured path : Step (Attended ρ) Text).Along (Alike settings wish)
      (readCaptured path) := by
  -- The files are the same for both, and so is what reading them comes to.
  refine along_world.bind fun world => ?_
  cases world.tree.read path with
  | error fault => exact .throw _ _
  | ok content =>
    dsimp only
    cases Utf8.decode? content with
    | some text => exact .pure text
    | none => exact .throw _ _

/-- The folders are searched alike. -/
theorem along_scan : (scan : Step (Attended ρ) (List Text)).Along (Alike settings wish) scan := by
  refine along_world.bind fun world => .own fun first second alike => ?_
  -- The settings say where to search, and the files what is found there.
  rw [alike.settings, alike.plainSettings]
  exact (along_noteMessages _).bind fun _ => .pure _

/-- Where no folder is searched no names are found. -/
theorem names_of_scan {session last : Session ρ} {world after : World} {names : List Text}
    (nowhere : session.settings.directories = [])
    (scanned : scan (session, world) = (.ok names, last, after)) : names = [] := by
  unfold scan at scanned
  rw [Act.bind_of_ok (Act.world_apply _), Act.bind_of_ok (Act.own_apply _), nowhere] at scanned
  cases scanned
  rfl

/-- The child's program is looked for alike. -/
theorem along_findProgram (libraryPath : Option Text) :
    (findProgram libraryPath : Step (Attended ρ) RawPath).Along (Alike settings wish)
      (findProgram libraryPath) := by
  -- The settings, and then the files, decide where the program comes from.
  refine .own fun first second alike => ?_
  rw [alike.settings, alike.plainSettings]
  cases settings.executablePath with
  | some path => exact .pure path
  | none =>
    refine along_world.bind fun world => along_note.bind fun _ => ?_
    cases world.tree.findExecutable? libraryPath with
    | some path => exact along_note.bind fun _ => .pure (RawPath.ofText path)
    | none => exact .throw _ _

/-- A stop is requested of both. -/
theorem along_requestStop :
    (requestStop : Step (Attended ρ) Unit).Along (Alike settings wish) requestStop := by
  -- A second request is not logged, and both sessions agree whether it is one.
  refine .own fun first second alike => ?_
  rw [alike.context]
  have requested : (Act.change fun session =>
      { session with context := session.context.requestStop } : Step (Attended ρ) Unit).Along
        (Alike settings wish) (Act.change fun session =>
          { session with context := session.context.requestStop }) :=
    along_change (fun _ => rfl) (fun _ => rfl) (fun _ => rfl) fun _ => rfl
  cases first.1.context.stopped with
  | true => exact requested
  | false => exact along_note.bind fun _ => requested

/-- A child that was stopped is stopped for both. -/
theorem along_obey (live : κ) :
    (obey live : Step (Attended ρ) κ).Along (Alike settings wish) (obey live) := by
  refine .own fun first second alike => ?_
  rw [alike.context]
  split
  · exact .pure _
  · exact .pure _

end Parts

section Run

variable {react : Receiver ρ} (upholds : react.Upholds wish)

include upholds

/-- The receiver is told of a detection, and what is wished holds still. -/
theorem along_tell {notice : Notice} (detection : notice.IsDetection) :
    (tell react.attending notice).Along (Alike settings wish) (tell react notice) := by
  rintro ⟨first, world⟩ ⟨session, other⟩ value after alike ran
  obtain ⟨rfl, rfl⟩ : session = first.plain ∧ other = world := ⟨alike.session, alike.world⟩
  rcases answered : react notice (first.receiver.receiver, other) with ⟨answer, receiver, later⟩
  have told : tell react notice (first.plain, other) =
      (answer.mapError .output, { first.plain with receiver }, later) := by
    simp only [tell, Session.plain, answered]
  rw [told] at ran
  cases answer with
  | error fault => cases ran
  | ok accepted =>
    cases ran
    -- This is the one place where what is wished has to hold anew.
    have next := upholds notice first.receiver other receiver later detection alike.wished answered
    let exchange : Exchange := ⟨notice, other.tree, later.tree⟩
    refine ⟨({ first with receiver := ⟨receiver, first.receiver.exchanges ++ [exchange]⟩ }, later),
      ?_, rfl, rfl, alike.settings, alike.notClosed, next⟩
    simp only [tell, Receiver.attending, answered]
    rfl

/-- A section is handled alike. -/
theorem along_handle (closed : Section) :
    (handle react.attending closed).Along (Alike settings wish) (handle react closed) := by
  unfold handle
  cases closed.kind with
  | type =>
    -- Every part of it is alike, and only telling the receiver has to do with what is wished.
    refine (along_accept _).bind fun detected => (along_noteUnsupported _ _).bind fun _ =>
      (along_tell upholds (by exact trivial)).bind fun _ => ?_
    exact along_change (fun _ => rfl) (fun _ => rfl) (fun _ => rfl) fun _ => rfl
  | topic =>
    refine (along_accept _).bind fun detected => (along_noteUnsupported _ _).bind fun _ =>
      (along_tell upholds (by exact trivial)).bind fun _ => ?_
    exact along_change (fun _ => rfl) (fun _ => rfl) (fun _ => rfl) fun _ => rfl

theorem along_handleAll (sections : List Section) :
    (handleAll react.attending sections).Along (Alike settings wish)
      (handleAll react sections) := by
  induction sections with
  | nil => exact .pure ()
  | cons closed rest ih => exact (along_handle upholds closed).bind fun _ => ih

/-- Captured files are replayed alike. -/
theorem along_replay (decoder : Decoder) (paths : List Text) :
    (replay react.attending decoder paths).Along (Alike settings wish)
      (replay react decoder paths) := by
  induction paths generalizing decoder with
  | nil => exact .pure ()
  | cons path rest ih =>
    -- The decoder that is left over from a file is the same for both, so it goes on with the next.
    exact (along_readCaptured path).bind fun text => along_note.bind fun _ =>
      (along_noteAnomalies _).bind fun _ => (along_handleAll upholds _).bind fun _ => ih _

theorem along_decodeLine (decoder : Decoder) (line : Text) :
    (decodeLine react.attending decoder line).Along (Alike settings wish)
      (decodeLine react decoder line) := by
  unfold decodeLine
  -- What the line closes does not depend on the session.
  rcases decoder.feed line with ⟨result, next⟩
  cases result with
  | nothing => exact .pure next
  | anomaly anomaly => exact along_note.bind fun _ => .pure next
  | «section» closed => exact (along_handle upholds closed).bind fun _ => .pure next

/-- A round is consumed alike. -/
theorem along_consume (decoder : Decoder) (round : Round) :
    (consume react.attending decoder round).Along (Alike settings wish)
      (consume react decoder round) := by
  refine .own fun first second alike => ?_
  rw [alike.settings, alike.plainSettings]
  dsimp only
  -- The slots follow from the settings, and which are filled from the round.
  cases round.get? (slots settings).2 with
  | none =>
    cases round.get? (slots settings).1 with
    | none => exact .pure decoder
    | some line => exact (along_decodeLine upholds decoder line).bind fun decoder => .pure decoder
  | some other =>
    -- What the round holds of the other stream goes to the log, after its section.
    cases round.get? (slots settings).1 with
    | none => exact along_note.bind fun _ => .pure decoder
    | some line =>
      exact (along_decodeLine upholds decoder line).bind fun decoder =>
        along_note.bind fun _ => .pure decoder

omit upholds in
/-- The child goes on alike. What is wished does not depend on the files, which the child may
change. -/
theorem along_goOn (lasts : IsLasting wish) (around : Surroundings κ) (live : κ) :
    (goOn around live : Step (Attended ρ) κ).Along (Alike settings wish)
      (goOn around live) := by
  refine .own fun first second alike => ?_
  rw [alike.context]
  split
  case' isTrue =>
    refine along_world.bind fun world => ?_
    cases around.stopWhen live world
    case' some events =>
      refine (along_noteAll events).bind fun _ => along_requestStop.bind fun _ => ?_
  -- Whether it was stopped or not, the child goes on with the files as they are.
  all_goals exact (along_obey live).bind fun live => along_world.bind fun world =>
    (along_setTree lasts _).bind fun _ => .pure _

/-- The child is followed alike. -/
theorem along_follow (lasts : IsLasting wish) (around : Surroundings κ) (fuel : Nat)
    (live : κ) (done : Bool) (decoder : Decoder) :
    (follow react.attending around fuel live done decoder).Along (Alike settings wish)
      (follow react around fuel live done decoder) := by
  induction fuel generalizing live done decoder with
  | zero => exact .pure ()
  | succ fuel ih =>
    unfold follow
    -- The child is no part of the session, so both see the same of it.
    rcases ChildKind.glance live done with ⟨glimpse, next, finished⟩
    cases glimpse with
    | round round =>
      refine (Act.Along.tryCatch (along_consume upholds decoder round) ?_).bind fun decoder =>
        (along_obey next).bind fun live => ih live finished decoder
      -- A child that is given up does not make the fault undone.
      rintro fault ⟨session, world⟩ value after ran
      cases ran
    | waiting => exact (along_goOn lasts around next).bind fun live => ih live finished decoder
    | fault fault => exact .throw _ _
    | «over» => exact .pure ()

omit upholds in
theorem along_launch (around : Surroundings κ) (command : List Text) (readsInput : Bool) :
    (launch around command readsInput : Step (Attended ρ) κ).Along (Alike settings wish)
      (launch around command readsInput) := by
  -- What is started, and in which files, is the same for both.
  refine .own fun first second alike => along_world.bind fun world => ?_
  rw [alike.settings, alike.plainSettings]
  dsimp only
  split
  · exact .throw _ _
  · exact .pure _

/-- The child runs alike. -/
theorem along_runChild (lasts : IsLasting wish) (around : Surroundings κ) (names : List Text) :
    (runChild react.attending around names).Along (Alike settings wish)
      (runChild react around names) := by
  unfold runChild
  generalize ChildKind.patience κ = limit
  refine .own fun first second alike => ?_
  rw [alike.settings, alike.plainSettings]
  have forgets : (forget : Step (Attended ρ) Unit).Along (Alike settings wish) forget :=
    along_change (fun _ => rfl) (fun _ => rfl) (fun _ => rfl) fun _ => rfl
  refine (along_findProgram _).bind fun program => along_note.bind fun _ =>
    (along_launch around _ _).bind fun live => ?_
  -- Registering and forgetting the child change the context alone.
  refine Act.Along.bind ?_ fun _ => (along_obey _).bind fun live =>
      (Act.Along.tryCatch (along_follow upholds lasts around limit _ false {}) ?_).bind fun _ =>
        forgets
  · exact along_change (fun _ => rfl) (fun _ => rfl) (fun _ => rfl) fun _ => rfl
  · rintro fault ⟨session, world⟩ value after ran
    cases ran

/-- A session runs alike whether the exchanges with its receiver are recorded or not, and what every
exchange upholds is upheld, if it does not depend on the files or there is nothing for a child to
do. -/
theorem along_run (may : settings.IsIdle ∨ IsLasting wish) (around : Surroundings κ) :
    (run react.attending around).Along (Alike settings wish) (run react around) := by
  refine .own fun first second alike => ?_
  rw [alike.settings, alike.plainSettings]
  -- What was found by the scan decides whether a child is started, so its result is kept.
  refine (along_replay upholds {} _).bind fun _ => along_scan.bind_of fun names given => .own
    fun first second alike => ?_
  rw [alike.settings, alike.plainSettings]
  -- Either there is no work, or what is wished outlasts a change of the files.
  split
  · exact along_note
  rename_i work
  have lasts : IsLasting wish := by
    refine may.resolve_left fun idle => work ?_
    obtain ⟨first, second, after, alike, scanned⟩ := given
    have nowhere : second.1.settings.directories = [] := by
      rw [alike.plainSettings, idle.directories]
    have nothing : names = [] := names_of_scan nowhere scanned
    simp [hasWork, idle.domains, idle.inputs, nothing]
  refine .own fun first second alike => ?_
  rw [alike.context]
  split
  · exact .pure ()
  · exact along_runChild upholds lasts around names

end Run

end Session

/-- Exchanges that a receiver accepts one after the other take it from one state to another. -/
def Receiver.Takes (react : Receiver ρ) : ρ → List Exchange → ρ → Prop
  | first, [], last => first = last
  | first, exchange :: rest, last => ∃ world middle after,
    react exchange.notice (first, world) = (.ok (), middle, after) ∧
      exchange.before = world.tree ∧ exchange.after = after.tree ∧ react.Takes middle rest last

/-- One more exchange that is accepted is taken after the others. -/
theorem Receiver.Takes.concat {react : Receiver ρ} {first middle last : ρ}
    {exchanges : List Exchange} {notice : Notice} {world after : World}
    (takes : react.Takes first exchanges middle)
    (accepted : react notice (middle, world) = (.ok (), last, after)) :
    react.Takes first (exchanges ++ [⟨notice, world.tree, after.tree⟩]) last := by
  -- The new exchange is taken by the receiver that the others lead to.
  induction exchanges generalizing first with
  | nil =>
    obtain rfl : first = middle := takes
    exact ⟨world, last, after, accepted, rfl, rfl, rfl⟩
  | cons exchange rest ih =>
    obtain ⟨start, next, reached, took, before, later, onward⟩ := takes
    exact ⟨start, next, reached, took, before, later, ih onward⟩

/-- How a receiver proceeds once it was opened: it accepts detections alone, and if there is nothing
for a child to do, then no file is changed from one exchange to the next. -/
structure Receiver.Proceeds (react : Receiver ρ) (settings : Settings) (first : ρ)
    (opened : Exchange) (attended : Attended ρ) (tree : FileTree) : Prop where
  detections : ∃ detections : List Exchange, attended.exchanges = opened :: detections ∧
    ∀ exchange ∈ detections, exchange.notice.IsDetection
  takes : react.Takes first attended.exchanges attended.receiver
  undisturbed : settings.IsIdle → Undisturbed attended.exchanges tree

/-- It does so after each detection. -/
theorem Receiver.upholds_proceeds (react : Receiver ρ) (settings : Settings) (first : ρ)
    (opened : Exchange) : react.Upholds (react.Proceeds settings first opened) := by
  rintro notice ⟨_, _⟩ world receiver after detection
    ⟨⟨detections, rfl, detects⟩, takes, undisturbed⟩ accepted
  -- Only the last notice is new, and it is a detection.
  refine ⟨⟨detections ++ [⟨notice, world.tree, after.tree⟩], rfl, fun exchange member => ?_⟩,
    takes.concat accepted, fun idle => (undisturbed idle).concat _ _⟩
  rcases List.mem_append.mp member with earlier | now
  · exact detects exchange earlier
  · rw [List.mem_singleton.mp now]
    exact detection

/-- If there is something for a child to do, then this does not depend on the files. -/
theorem Receiver.isLasting_proceeds (react : Receiver ρ) (settings : Settings) (first : ρ)
    (opened : Exchange) (work : ¬ settings.IsIdle) :
    IsLasting (react.Proceeds settings first opened) :=
  fun _ _ _ proceeds => ⟨proceeds.detections, proceeds.takes, fun idle => absurd idle work⟩

/-- The exchanges of a whole run: a receiver accepts the start, then detections, then the end. -/
structure Receiver.Attends (react : Receiver ρ) (first : ρ) (before : FileTree)
    (opened : Exchange) (detections : List Exchange) (closed : Exchange) (last : ρ)
    (after : FileTree) : Prop where
  opens : opened.notice = .opened
  starts : opened.before = before
  detects : ∀ exchange ∈ detections, exchange.notice.IsDetection
  closes : ∃ types topics, closed.notice = .closed types topics
  ends : closed.after = after
  takes : react.Takes first (opened :: detections ++ [closed]) last

namespace Session

/-- A session from its start to its end. -/
def whole (react : Receiver ρ) (around : Surroundings κ) : Step ρ Unit := do
  start react
  run react around
  stop react

/-- What the receiver of a session is told from the start to the end. -/
def exchanges (react : Receiver ρ) (around : Surroundings κ) (session : Session ρ) (world : World) :
    List Exchange :=
  let attended : Session (Attended ρ) :=
    { session with receiver := { receiver := session.receiver } }
  (whole react.attending around (attended, world)).2.1.receiver.exchanges

/-- A receiver is told of the end, once a stop was requested. -/
theorem stop_of_alike {react : Receiver ρ} {settings : Settings}
    {wish : Attended ρ → FileTree → Prop} {first : Session (Attended ρ) × World}
    {second : Session ρ × World} {last : Session ρ} {after : World}
    (alike : Alike settings wish first second)
    (ran : stop react second = (.ok (), last, after)) :
    ∃ asked types topics noted, wish asked noted.tree ∧
      react (.closed types topics) (asked.receiver, noted) = (.ok (), last.receiver, after) ∧
      (stop react.attending first).2.1.receiver.exchanges =
        asked.exchanges ++ [⟨.closed types topics, noted.tree, after.tree⟩] := by
  unfold stop at ran ⊢
  rcases requested : requestStop second with ⟨fault | _, session, noted⟩
  · rw [Act.bind_of_error requested] at ran
    cases ran
  obtain ⟨⟨attended, world⟩, same, again⟩ :=
    along_requestStop first second () (session, noted) alike requested
  obtain ⟨rfl, rfl⟩ : session = attended.plain ∧ noted = world := ⟨again.session, again.world⟩
  have notClosed : attended.closed = false := again.notClosed
  -- Both sessions come to the last notice, as neither was closed before.
  rw [Act.bind_of_ok requested, Act.bind_of_ok (Act.own_apply _),
    if_neg (by simp [plain, notClosed]), Act.bind_of_ok (Act.change_apply _ _)] at ran
  rw [Act.bind_of_ok same, Act.bind_of_ok (Act.own_apply _), if_neg (by simp [notClosed]),
    Act.bind_of_ok (Act.change_apply _ _)]
  refine ⟨attended.receiver, attended.types.values, attended.topics.values, noted, again.wished, ?_⟩
  -- The receiver gives the same answer to both sessions.
  rcases answered : react (.closed attended.types.values attended.topics.values)
    (attended.receiver.receiver, noted) with ⟨answer, receiver, later⟩
  simp only [tell, plain, answered] at ran
  simp only [tell, Receiver.attending, answered]
  cases answer with
  | error fault => cases ran
  | ok accepted =>
    cases ran
    exact ⟨rfl, rfl⟩

/-- The exchanges of a session that succeeds are those of a whole run, in which its receiver accepts
everything that it is told; and if there is nothing for a child to do, then no file was changed from
one exchange to the next. -/
theorem exchanges_of_whole {react : Receiver ρ} {around : Surroundings κ} {session last : Session ρ}
    {world after : World} (notClosed : session.closed = false)
    (ran : whole react around (session, world) = (.ok (), last, after)) :
    ∃ opened detections closed,
      exchanges react around session world = opened :: detections ++ [closed] ∧
      react.Attends session.receiver world.tree opened detections closed last.receiver
        after.tree ∧
      (session.settings.IsIdle → Undisturbed (opened :: detections ++ [closed]) after.tree) := by
  let attended : Session (Attended ρ) :=
    { session with receiver := { receiver := session.receiver } }
  unfold whole at ran
  -- The receiver accepts the start, or nothing else is done.
  rcases answered : react .opened (session.receiver, world) with ⟨answer, receiver, begun⟩
  have starts : start react (session, world) =
      (answer.mapError .output, { session with receiver }, begun) := by
    simp only [start, tell, answered]
  cases answer with
  | error fault =>
    rw [Act.bind_of_error starts] at ran
    cases ran
  | ok accepted =>
  rw [Act.bind_of_ok starts] at ran
  let opened : Exchange := ⟨.opened, world.tree, begun.tree⟩
  -- The recorded session starts with this exchange.
  have attends : start react.attending (attended, world) =
      (.ok (), { attended with receiver := ⟨receiver, [opened]⟩ }, begun) := by
    simp only [start, tell, Receiver.attending, attended, answered]
    rfl
  -- From then on the receiver proceeds, which every detection upholds.
  let wish := react.Proceeds session.settings session.receiver opened
  have alike : Alike session.settings wish
      ({ attended with receiver := ⟨receiver, [opened]⟩ }, begun)
      ({ session with receiver }, begun) :=
    ⟨rfl, rfl, rfl, notClosed, ⟨[], rfl, by simp⟩,
      ⟨world, receiver, begun, answered, rfl, rfl, rfl⟩, fun _ => ⟨.singleton _, by simp [opened]⟩⟩
  have may : session.settings.IsIdle ∨ IsLasting wish := by
    by_cases idle : session.settings.IsIdle
    · exact .inl idle
    · exact .inr (Receiver.isLasting_proceeds _ _ _ _ idle)
  -- The run succeeds too, so the recorded one does the same, and then both are stopped.
  rcases running : run react around ({ session with receiver }, begun) with ⟨fault | _, middle⟩
  · rw [Act.bind_of_error running] at ran
    cases ran
  rw [Act.bind_of_ok running] at ran
  obtain ⟨between, ranAlike, alikeThen⟩ :=
    along_run (Receiver.upholds_proceeds _ _ _ _) may around _ _ _ _ alike running
  obtain ⟨asked, types, topics, noted, ⟨⟨detections, whole, detects⟩, takes, undisturbed⟩, ended,
    recorded⟩ := stop_of_alike alikeThen ran
  refine ⟨opened, detections, ⟨.closed types topics, noted.tree, after.tree⟩, ?_,
    ⟨rfl, rfl, detects, ⟨types, topics, rfl⟩, rfl, ?_⟩, fun idle => ?_⟩
  · -- What was recorded is read off the end of the recorded run.
    rw [← whole, ← recorded, exchanges, Session.whole, Act.bind_of_ok attends,
      Act.bind_of_ok ranAlike]
  · rw [← whole]
    exact takes.concat ended
  · rw [← whole]
    exact (undisturbed idle).concat _ _

end Session
end IdlScout
