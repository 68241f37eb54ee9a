import IdlScout.Proofs.Child.Running
import IdlScout.Proofs.Session.Supervision

/-! A session that nobody stops runs its child by actions of a supervision. What holds of all of
these holds of its runs. -/

namespace IdlScout

namespace LiveChild

/-- What a monitor shows of a child, and what has become of the child's output then. -/
inductive Glanced (live : LiveChild) : Glimpse × LiveChild × Bool → Prop where
  | round {round : Round} {next : LiveChild}
      (serves : live.process.output.Serves next.process.output)
      (rounds : next.process.output.rounds = live.process.output.rounds ++ [round])
      (watched : next.Watched) : Glanced live (.round round, next, false)
  | waiting {next : LiveChild} (serves : live.process.output.Serves next.process.output)
      (rounds : next.process.output.rounds = live.process.output.rounds)
      (watched : next.Watched) : Glanced live (.waiting, next, false)
  | fault {fault : ProcessFault} {next : LiveChild} (ending : ChildEnd)
      (serves : live.process.output.Serves next.process.output)
      (rounds : next.process.output.rounds = live.process.output.rounds)
      (finished : next.process.output.consumer = .finished)
      (failed : ending.result = .error (.process fault)) : Glanced live (.fault fault, next, true)
  | clean {next : LiveChild} (ending : ChildEnd)
      (serves : live.process.output.Serves next.process.output)
      (rounds : next.process.output.rounds = live.process.output.rounds)
      (finished : next.process.output.consumer = .finished)
      (succeeded : ending.result = .ok ()) : Glanced live (.over, next, true)

/-- A monitor shows one of four things. -/
theorem glance_glanced {live : LiveChild} (watched : live.Watched) :
    live.Glanced (live.glance false) := by
  -- A monitor asks for a round first, which is a run of moves of the output alone.
  obtain ⟨serves, rounds⟩ := Mux.next_serves live.process.output
  let served := live.change fun process => { process with output := process.output.next }
  have still : served.Watched := watched.stay serves.held_eq rfl rfl rfl (.refl _)
  rcases rounds with same | ⟨round, more⟩
  · have nothing : live.process.output.next.rounds[live.process.output.rounds.length]? = none := by
      simp [same]
    by_cases finished : live.process.output.next.consumer = .finished
    · cases status : live.process.status with
      -- The output is at its end, but the program is not.
      | none =>
        have shown : live.glance false = (.waiting, served, false) := by
          simp [glance, Monitor.next, nothing, finished, ChildProcess.collect, watched.uncollected,
            status, served, change]
        rw [shown]
        exact .waiting serves same still
      | some ended =>
        -- The end is collected here, and only here.
        let told := (live.process.feed.move? .childEnds).getD live.process.feed
        let feed := (told.hand none).forward
        let last := served.change fun process =>
          { process with custody := process.custody.finish, feed }
        let ending : ChildEnd := ⟨ended, feed.outcome⟩
        -- Whether the end is a success is seen from the status and from how forwarding ended.
        cases failed : ChildProcess.endFault? ended feed.outcome with
        | none =>
          have shown : live.glance false = (.over, last, true) := by
            simp [glance, Monitor.next, nothing, finished, ChildProcess.collect,
              watched.uncollected, status, failed, served, last, told, feed, change]
          have succeeds : ending.result = .ok () := by simp [ending, ChildEnd.result, failed]
          rw [shown]
          exact .clean ending serves same finished succeeds
        | some fault =>
          have shown : live.glance false = (.fault fault, last, true) := by
            simp [glance, Monitor.next, nothing, finished, ChildProcess.collect,
              watched.uncollected, status, failed, served, last, told, feed, change]
          have fails : ending.result = .error (.process fault) := by
            simp [ending, ChildEnd.result, failed]
          rw [shown]
          exact .fault ending serves same finished fails
    · -- Without a round and without the last one there is nothing to show yet.
      have shown : live.glance false = (.waiting, served, false) := by
        simp [glance, Monitor.next, nothing, finished, served, change]
      rw [shown]
      exact .waiting serves same still
  · have first : live.process.output.next.rounds[live.process.output.rounds.length]? =
        -- The round is the first that was not shown yet.
        some round := by simp [more]
    have shown : live.glance false = (.round round, served, false) := by
      simp [glance, Monitor.next, first, served, change]
    rw [shown]
    exact .round serves more still

end LiveChild

namespace Supervision

variable {ρ : Type} {react : Receiver ρ} {ending : ChildEnd} {count more : Nat}
  {first middle last : Supervision ρ}

/-- The second state comes from the first by some number of actions at least. -/
def Reaches (react : Receiver ρ) (ending : ChildEnd) (count : Nat) (first last : Supervision ρ) :
    Prop :=
  ∃ moves, count ≤ moves.length ∧ first.moves? react ending moves = some last

namespace Reaches

theorem refl (first : Supervision ρ) : first.Reaches react ending 0 first :=
  ⟨[], Nat.le_refl 0, rfl⟩

theorem trans (before : Reaches react ending count first middle)
    (after : Reaches react ending more middle last) :
    Reaches react ending (count + more) first last := by
  obtain ⟨earlier, long, run⟩ := before
  obtain ⟨later, longLater, runLater⟩ := after
  -- As many actions as both ask for are there when both lists are.
  refine ⟨earlier ++ later, ?_, ?_⟩
  · rw [List.length_append]
    exact Nat.add_le_add long longLater
  · rw [moves?, List.foldlM_append]
    exact (congrArg (· >>= _) run).trans runLater

/-- What takes many actions takes as many as some of them. -/
theorem of_le (reaches : Reaches react ending more first last) (less : count ≤ more) :
    Reaches react ending count first last := by
  obtain ⟨moves, long, run⟩ := reaches
  exact ⟨moves, Nat.le_trans less long, run⟩

theorem of_move {move : SupervisionMove} (moved : first.move? react ending move = some last) :
    Reaches react ending 1 first last :=
  ⟨[move], Nat.le_refl 1, by simp [moves?, moved]⟩

/-- Moves of readers and consumer are actions of the supervision. -/
theorem of_serves {output : Mux} (serves : first.output.Serves output) :
    Reaches react ending 0 first { first with output } := by
  obtain ⟨moves, calm, run⟩ := serves
  induction moves generalizing first with
  | nil =>
    obtain rfl : first.output = output := by simpa [Mux.moves?] using run
    exact .refl first
  | cons move rest ih =>
    obtain ⟨middle, moved, run⟩ := Mux.moves?_cons.mp run
    obtain ⟨noStop, noDrop⟩ := calm move List.mem_cons_self
    have stepped : first.move? react ending (.output move) =
        some { first with output := middle } := by
      cases move <;> simp_all [Supervision.move?]
    -- How many moves the readers take does not count.
    have rested : Reaches react ending 0 { first with output := middle } { first with output } :=
      ih (fun move member => calm move (List.mem_cons_of_mem _ member)) run
    have later := (Reaches.of_move stepped).trans rested
    exact later.of_le (Nat.zero_le _)

/-- Others change the files and the log at any time. -/
theorem meanwhile (first : Supervision ρ) (world : World) :
    Reaches react ending 1 first { first with world } :=
  have changed : first.move? react ending (.meanwhile world) = some { first with world } := rfl
  .of_move changed

/-- Messages to a stream are actions of the child. -/
theorem of_hand (first : Supervision ρ) (stream : Nat) (messages : List (Option Text)) :
    Reaches react ending 0 first { first with
      output :=
        messages.foldl (fun output message => output.hand stream message) first.output } := by
  induction messages generalizing first with
  | nil => exact .refl first
  -- What was handed in before is part of the state that the rest starts from.
  | cons message rest ih =>
    have written : first.move? react ending (.write stream message) =
      some { first with output := first.output.hand stream message } := rfl
    exact ((Reaches.of_move written).trans (ih _)).of_le (Nat.zero_le _)

/-- A round that is consumed counts as such. -/
theorem consume {round : Round} {decoder : Decoder} {session : Session ρ} {world : World}
    (going : first.result = none) (found : first.output.rounds[first.consumed]? = some round)
    (ran : Session.consume react first.decoder round (first.session, first.world) =
      (.ok decoder, session, world)) :
    Reaches react ending 1 first { first with
      session, world, decoder, consumed := first.consumed + 1 } := by
  have moved : first.move? react ending .consume = some { first with
      session, world, decoder, consumed := first.consumed + 1 } := by
    simp only [move?, going, found, ran]
  exact .of_move moved

/-- A round that fails to be consumed ends the session's part. -/
theorem fail {round : Round} {fault : SessionFault} {session : Session ρ} {world : World}
    (going : first.result = none) (found : first.output.rounds[first.consumed]? = some round)
    (ran : Session.consume react first.decoder round (first.session, first.world) =
      (.error fault, session, world)) :
    Reaches react ending 1 first { first with
      session, world, consumed := first.consumed + 1, result := some (.error fault) } := by
  have moved : first.move? react ending .consume = some { first with
      session, world, consumed := first.consumed + 1, result := some (.error fault) } := by
    simp only [move?, going, found, ran]
  exact .of_move moved

/-- The session is told of the end of a child whose output was read to the end. -/
theorem collect (going : first.result = none) (all : first.consumed = first.output.rounds.length)
    (finished : first.output.consumer = .finished) :
    Reaches react ending 1 first { first with result := some ending.result } := by
  have moved : first.move? react ending .collect =
      some { first with result := some ending.result } := by
    simp [move?, going, all, finished]
  exact .of_move moved

end Reaches

/-- Actions of a supervision come to the result, the session and the files of a run, unless the run
is cut off after a number of actions. -/
def ComesTo (react : Receiver ρ) (limit : Nat) (first : Supervision ρ)
    (after : Except SessionFault Unit × Session ρ × World) : Prop :=
  ∃ ending count last, first.Reaches react ending count last ∧
    (last.session, last.world) = after.2 ∧
    (last.result = some after.1 ∨ last.result = none ∧ after.1 = .ok () ∧ limit ≤ count)

/-- What comes after an action is cut off one action later. -/
theorem ComesTo.of_reaches {limit : Nat} {after : Except SessionFault Unit × Session ρ × World}
    (before : ∀ ending, first.Reaches react ending 1 middle)
    (later : middle.ComesTo react limit after) : first.ComesTo react (limit + 1) after := by
  -- The counts differ by the action that came first.
  obtain ⟨ending, count, last, reaches, same, result⟩ := later
  refine ⟨ending, 1 + count, last, (before ending).trans reaches, same, result.imp_right ?_⟩
  rintro ⟨none, ok, long⟩
  exact ⟨none, ok, by omega⟩

/-- A session that has consumed all that its child was seen to write. -/
def ofLive (live : LiveChild) (decoder : Decoder) (session : Session ρ) (world : World) :
    Supervision ρ where
  output := live.process.output
  session := session
  world := world
  decoder := decoder
  consumed := live.process.output.rounds.length

/-- What a child does until its next wait are actions of its own, while others change the files. -/
theorem Reaches.go {live : LiveChild} (watched : live.Watched) {decoder : Decoder}
    {session : Session ρ} {world : World} (after : World) :
    Reaches react ending 1 (ofLive live decoder session world)
      (ofLive live.go decoder session after) := by
  obtain ⟨-, first, second, output⟩ := watched.go
  let watching := ofLive live decoder session world
  have written : Reaches react ending 0 watching { watching with
      output := first.foldl (fun output message => output.hand 0 message) live.process.output } :=
    .of_hand watching 0 first
  have reached := (written.trans (.of_hand _ 1 second)).trans (.meanwhile _ after)
  -- What is handed in makes no round, so all rounds are consumed still.
  have all : ofLive live.go decoder session after = { watching with
      output := second.foldl (fun output message => output.hand 1 message)
        (first.foldl (fun output message => output.hand 0 message) live.process.output)
      world := after } := by
    simp [watching, ofLive, output, Mux.foldl_hand]
  rw [all]
  exact reached

end Supervision

namespace Session

variable {ρ : Type}

/-- Handling a section does not touch what is shared with those who may stop the session. -/
theorem handle_context (react : Receiver ρ) (closed : Section) :
    (handle react closed).Keeps context := by
  -- Every part of the step keeps the context, so the parts one after the other do.
  have unsupported (fullName idl : Text) :
      (noteUnsupported fullName idl : Step ρ Unit).Keeps context := by
    rintro ⟨session, world⟩
    obtain ⟨noted, ran⟩ := noteUnsupported_apply fullName idl session world
    rw [ran]
  have accepted {α : Type} (read : Except DetectionFault α) :
      (accept read : Step ρ α).Keeps context := by
    cases read <;> exact fun _ => rfl
  obtain ⟨kind, text⟩ := closed
  cases kind with
  | type =>
    refine (accepted _).bind fun detected => (unsupported _ _).bind fun _ => ?_
    exact Act.Keeps.bind (fun _ => rfl) fun _ _ => rfl
  | topic =>
    refine (accepted _).bind fun detected => (unsupported _ _).bind fun _ => ?_
    exact Act.Keeps.bind (fun _ => rfl) fun _ _ => rfl

/-- Nor does consuming a round. -/
theorem consume_context (react : Receiver ρ) (decoder : Decoder) (round : Round) :
    (consume react decoder round).Keeps context := by
  rintro ⟨session, world⟩
  -- The log is all that differs from decoding the line.
  obtain ⟨noted, ran⟩ := consume_apply react decoder round session world
  rw [ran]
  cases round.get? (slots session.settings).1 with
  | none => rfl
  | some line =>
    rcases fed : decoder.feed line with ⟨result, decoder'⟩
    cases result with
    -- Without a closed section nothing is handled.
    | nothing | anomaly => simp only [decodeLine, fed]; rfl
    | «section» closed =>
      simp only [decodeLine, fed]
      exact (handle_context react closed).bind (fun _ _ => rfl) (session, world)

section Unstopped

variable {around : Surroundings} (unstopped : ∀ live world, around.stopWhen live world = none)

/-- A child goes on that nobody stops. -/
theorem obey_of_free (live : LiveChild) {session : Session ρ} (world : World)
    (free : session.context.hasStopped childNumber = false) :
    obey live (session, world) = (.ok live, session, world) := by
  rw [obey, Act.bind_of_ok (Act.own_apply _)]
  simp only [free]
  rfl

include unstopped in
/-- A child that nobody stops goes on in the files as they are. -/
theorem goOn_apply {live : LiveChild} (watched : live.Watched) {session : Session ρ} (world : World)
    (free : session.context.hasStopped childNumber = false) :
    ∃ (ready : LiveChild) (after : World), ready.Watched ∧ ready.process = live.process ∧
      goOn around live (session, world) = (.ok ready.go, session, after) := by
  let ready := live.within world.tree
  refine ⟨ready, { world with tree := ready.go.leave world.tree },
    watched.stay rfl rfl rfl rfl ⟨id, fun _ => rfl, fun _ => rfl⟩, rfl, ?_⟩
  -- From the first look at the context on both branches do the same.
  have rest : (obey live >>= fun live => do
      let (live, tree) := ChildKind.go live (← Act.world).tree
      Act.setTree tree
      return live : Step ρ LiveChild) (session, world) =
        (.ok ready.go, session, { world with tree := ready.go.leave world.tree }) := by
    rw [Act.bind_of_ok (obey_of_free live world free)]
    rfl
  rw [← rest, goOn, Act.bind_of_ok (Act.own_apply _)]
  -- Neither branch logs or stops anything, as the surroundings ask for no stop.
  split
  · rw [Act.bind_of_ok (Act.world_apply _)]
    simp only [unstopped]
  · rfl

/-- Giving a child up changes nothing but the files. -/
theorem giveUp_apply (live : LiveChild) (done : Bool) (session : Session ρ) (world : World) :
    ∃ after, giveUp live done (session, world) = (.ok (), session, after) :=
  ⟨_, rfl⟩

include unstopped in
/-- A session follows its child by actions of a supervision. -/
theorem follow_comesTo (react : Receiver ρ) (fuel : Nat) {live : LiveChild}
    (watched : live.Watched) (decoder : Decoder) {session : Session ρ} (world : World)
    (free : session.context.hasStopped childNumber = false) :
    (Supervision.ofLive live decoder session world).ComesTo react fuel
      (follow react around fuel live false decoder (session, world)) := by
  -- Each glance is some moves of the output, and what follows it is one action at least.
  induction fuel generalizing live decoder session world with
  | zero => exact ⟨⟨.exited 0, .ok ()⟩, 0, _, .refl _, rfl, .inr ⟨rfl, rfl, Nat.le_refl 0⟩⟩
  | succ fuel ih =>
    have glanced := LiveChild.glance_glanced watched
    rw [follow, ChildKind.glance_live]
    generalize live.glance false = shown at glanced
    let watching : Supervision ρ := .ofLive live decoder session world
    cases glanced with
    | @round round next serves rounds watched =>
      let shown : Supervision ρ := { watching with output := next.process.output }
      have reached (ending : ChildEnd) : watching.Reaches react ending 0 shown :=
        .of_serves serves
      have first : shown.output.rounds[shown.consumed]? = some round := by
        -- The round that is shown is the one behind those that were consumed.
        simp [shown, watching, Supervision.ofLive, rounds]
      simp only
      rw [Act.bind_apply, Act.tryCatch_apply]
      have kept := consume_context react decoder round (session, world)
      rcases ran : consume react decoder round (session, world) with
        ⟨fault | decoder', session', world'⟩
      · -- The child that is given up may change the files before it ends.
        obtain ⟨after, gave⟩ := giveUp_apply next false session' world'
        simp only [Act.bind_of_ok gave, Act.throw_apply]
        exact ⟨⟨.exited 0, .ok ()⟩, _, _,
          ((reached _).trans (.fail rfl first ran)).trans (.meanwhile _ after), rfl, .inl rfl⟩
      · -- A round that was consumed brings the two states together again.
        rw [ran] at kept
        replace free := kept ▸ free
        simp only [Act.bind_of_ok (obey_of_free next world' free)]
        refine .of_reaches (fun ending => ?_) (ih watched decoder' world' free)
        have all : Supervision.ofLive next decoder' session' world' = { shown with
            session := session', world := world', decoder := decoder'
            consumed := shown.consumed + 1 } := by
          simp [shown, watching, Supervision.ofLive, rounds]
        rw [all]
        exact (reached ending).trans (.consume rfl first ran)
    | @waiting next serves rounds watched =>
      obtain ⟨ready, after, awaits, same, ran⟩ := goOn_apply unstopped watched world free
      simp only [Act.bind_of_ok ran]
      refine .of_reaches (fun ending => ?_) (ih awaits.go.1 decoder after free)
      -- What the child wrote meanwhile is seen before the wait.
      have seen : Supervision.ofLive ready decoder session world =
          { watching with output := next.process.output } := by
        simp [watching, Supervision.ofLive, same, rounds]
      have served : watching.Reaches react ending 0 (.ofLive ready decoder session world) := by
        rw [seen]
        exact .of_serves serves
      exact served.trans (.go awaits after)
    | @fault fault next ending serves rounds finished failed =>
      -- No round is left when the end is told.
      have all := (congrArg List.length rounds).symm
      exact ⟨ending, _, _, (Supervision.Reaches.of_serves serves).trans (.collect rfl all finished),
        rfl, .inl (congrArg some failed)⟩
    | @clean next ending serves rounds finished succeeded =>
      have all := (congrArg List.length rounds).symm
      exact ⟨ending, _, _, (Supervision.Reaches.of_serves serves).trans (.collect rfl all finished),
        rfl, .inl (congrArg some succeeded)⟩

/-- Looking for the child's program changes nothing but the log. -/
theorem findProgram_apply (libraryPath : Option Text) (session : Session ρ) (world : World) :
    ∃ result noted, findProgram libraryPath (session, world) = (result, session, noted) := by
  rw [findProgram, Act.bind_of_ok (Act.own_apply _)]
  cases session.settings.executablePath with
  | some path => exact ⟨_, _, rfl⟩
  | none =>
    -- The search is logged before its result is known.
    simp only
    rw [Act.bind_of_ok (Act.world_apply _), Act.bind_of_ok (Act.note_apply ..)]
    cases world.tree.findExecutable? libraryPath with
    | some path => exact ⟨_, _, rfl⟩
    | none => exact ⟨_, _, rfl⟩

/-- A child that is started is watched from then on; nothing is changed by its start. -/
theorem launch_apply (command : List Text) (readsInput : Bool) (session : Session ρ)
    (world : World) :
    (∃ fault, launch around command readsInput (session, world) =
      (.error (.process fault), session, world)) ∨
    ∃ live forwarded, launch around command readsInput (session, world) =
        (.ok live, session, world) ∧ live.passed = [0, 0] ∧
      live.process = ChildProcess.begin forwarded session.settings.waitTimeout.isSome := by
  rw [launch, Act.bind_of_ok (Act.own_apply _), Act.bind_of_ok (Act.world_apply _)]
  generalize (if readsInput then some (LineSource.linesOfBytes around.input) else none) = forwarded
  rw [ChildKind.launch_live]
  cases launched : LiveChild.launch world.tree around.environment command forwarded
      session.settings.waitTimeout.isSome with
  | error fault =>
    exact .inl ⟨fault, rfl⟩
  | ok live =>
    refine .inr ⟨live, forwarded, rfl, ?_⟩
    -- A launch that succeeds went past three checks: the path, the permission and the program.
    unfold LiveChild.launch at launched
    split at launched
    · cases launched
    · split at launched
      · cases launched
      · split at launched
        · cases launched
        · obtain rfl : _ = live := by simpa only [Except.ok.injEq] using launched
          exact ⟨rfl, rfl⟩

/-- The names that are handed to a child change its input alone. -/
theorem handNames_apply (names : List Text) (process : ChildProcess) :
    ∃ feed, handNames names process = { process with feed } := by
  have each (names : List Text) (process : ChildProcess) : ∃ feed,
      names.foldl (fun process name => process.pipe (some name)) process =
        { process with feed } := by
    -- Each name goes to the feed, and to nothing else of the process.
    induction names generalizing process with
    | nil => exact ⟨process.feed, rfl⟩
    | cons name rest ih => exact ih (process.pipe (some name))
  obtain ⟨feed, handed⟩ := each names process
  exact ⟨feed.hand none, by rw [handNames, handed]; rfl⟩

/-- A child that was just begun is watched by the first monitor, whatever names it is handed. -/
theorem watched_of_begun {live : LiveChild} {forwarded : Option (List Text)} {timed : Bool}
    (passed : live.passed = [0, 0]) (begun : live.process = ChildProcess.begin forwarded timed)
    (names : List Text) :
    let first := (live.change (handNames names)).change fun process => process.monitor.process
    first.Watched ∧
      first.process.output = (ChildProcess.begin none timed).monitor.process.output := by
  intro first
  obtain ⟨feed, handed⟩ := handNames_apply names live.process
  have process : first.process =
      { (ChildProcess.begin forwarded timed).monitor.process with feed } := by
    simp only [first, LiveChild.change]
    rw [handed, begun]
    rfl
  refine ⟨⟨by rw [process]; rfl, by rw [process]; rfl, ⟨0, 0, passed⟩, fun ended => ?_⟩,
    by rw [process]; rfl⟩
  -- A child that was just begun has not ended.
  rw [process] at ended
  cases ended

include unstopped in
/-- A session that nobody stops starts no child, or runs it by actions of a supervision and then
forgets it. -/
theorem runChild_comesTo (react : Receiver ρ) (names : List Text) {session : Session ρ}
    (world : World) (going : session.context.stopped = false)
    (free : session.context.hasStopped childNumber = false) :
    let after := runChild react around names (session, world)
    (∃ fault, after.1 = .error fault ∧ after.2.1 = session) ∨
    ∃ started result, Supervision.ComesTo react LiveChild.roundLimit
        (.begin session.settings.waitTimeout.isSome
          { session with context := session.context.register childNumber } started) result ∧
      after = (result.1, { result.2.1 with context := result.2.1.context.clear }, result.2.2) := by
  rw [runChild, Act.bind_of_ok (Act.own_apply _)]
  -- What comes before the child changes the log alone.
  obtain ⟨found, noted, ran⟩ := findProgram_apply (around.environment.lookup libraryPathVariable)
    session world
  rw [Act.bind_apply, ran]
  -- Without a program the session is as it was before.
  cases found with
  | error fault => exact .inl ⟨fault, rfl, rfl⟩
  | ok program =>
    simp only
    rw [Act.bind_of_ok (Act.note_apply ..), Act.bind_apply]
    generalize session.settings.childCommand program _ = command
    generalize noted.note _ _ _ _ = logged
    rcases launch_apply command session.settings.readsStandardInput session logged with
      ⟨fault, ran⟩ | ⟨live, forwarded, ran, passed, begun⟩
    · -- Nor is anything changed by a launch that fails.
      exact .inl ⟨.process fault, by rw [ran], by rw [ran]⟩
    · rw [ran]
      simp only
      rw [Act.bind_of_ok (Act.change_apply _ _)]
      let registered : Session ρ :=
        { session with context := session.context.register childNumber }
      -- Nobody asked for a stop before the child was registered either.
      have unasked : registered.context.hasStopped childNumber = false := by
        simpa [registered, Context.register, Context.move?, Context.hasStopped, going] using free
      rw [Act.bind_of_ok (obey_of_free _ logged unasked)]
      simp only [ChildKind.change_live, ChildKind.patience_live]
      obtain ⟨watched, output⟩ := watched_of_begun passed begun names
      generalize ((live.change (handNames names)).change fun process => process.monitor.process) =
        first at watched output
      have start : Supervision.ofLive first {} registered logged =
          .begin session.settings.waitTimeout.isSome registered logged := by
        rw [Supervision.ofLive, output]
        rfl
      -- From here on the child is followed, and forgotten whatever comes of that.
      have comes := follow_comesTo unstopped react LiveChild.roundLimit watched {} logged unasked
      rw [start] at comes
      refine .inr ⟨logged, _, comes, ?_⟩
      -- The context forgets the child on both ways out.
      rw [Act.bind_apply, Act.tryCatch_apply]
      rcases follow react around LiveChild.roundLimit first false {} (registered, logged) with
        ⟨fault | _, session', world'⟩ <;> rfl

end Unstopped
end Session
end IdlScout
