import IdlScout.Child.Process
import IdlScout.Proofs.Child.FeedSchedule
import IdlScout.Proofs.Streams.HandOut

/-! A child's end is told once, whatever its monitors, those who stop it and the child itself do,
and in whatever order. -/

namespace IdlScout

namespace Feed

variable {feed next : Feed} {move : FeedMove} {fault : Option WriteFault}

/-- The forwarder has ended. -/
def isDone (feed : Feed) : Bool :=
  match feed.place with
  | .done _ => true
  | _ => false

theorem isDone_iff : feed.isDone = true ↔ ∃ fault, feed.place = .done fault := by
  unfold isDone
  split <;> simp_all

/-- A forwarder that has ended stays so. -/
theorem Step.done (stepped : feed.Step move next) (done : feed.place = .done fault) :
    next.place = .done fault := by
  cases stepped <;> simp_all [hand]

theorem Reaches.done (reaches : feed.Reaches next) (done : feed.place = .done fault) :
    next.place = .done fault := by
  obtain ⟨moves, run⟩ := reaches
  -- No move of the feed leaves the place at which forwarding is done.
  induction moves generalizing feed with
  | nil =>
    obtain rfl : feed = next := by simpa [moves?] using run
    exact done
  | cons move rest ih =>
    obtain ⟨middle, moved, run⟩ := moves?_cons.mp run
    exact ih ((step_of_move? moved).done done) run

/-- How forwarding ended is the fault that the forwarder left, if it left one. -/
theorem outcome_of_done (done : feed.place = .done fault) :
    feed.outcome = match fault with
      | some fault => .error fault
      | none => .ok () := by
  cases fault <;> simp [outcome, done]

end Feed

namespace Custody

variable {custody next : Custody} {move : CustodyMove}

/-- Only the wait collects the end. -/
theorem collected_of_move? (moved : custody.move? move = some next) (other : move ≠ .collect) :
    next.collected = custody.collected := by
  -- All but the wait's return leave the field alone.
  cases move with
  | collect => exact absurd rfl other
  | call =>
    obtain rfl : _ = next := by simpa only [move?, Option.some.injEq] using moved
    rfl
  | swap caller | look caller | interrupt caller | noteExit =>
    simp only [move?, Option.ite_none_right_eq_some, Option.some.injEq] at moved
    obtain ⟨-, rfl⟩ := moved
    rfl

/-- Requests to stop collect nothing. -/
theorem stop_collected (custody : Custody) : custody.stop.collected = custody.collected := by
  -- A request is three moves, and none of them is the wait's return.
  have each (custody : Custody) (move : CustodyMove) (other : move ≠ .collect) :
      (custody.attempt move).collected = custody.collected := by
    unfold attempt
    cases moved : custody.move? move with
    | none => rfl
    | some next => exact collected_of_move? moved other
  simp [stop, each]

/-- At its end the wait has collected the child's. -/
theorem finish_collected (custody : Custody) : custody.finish.collected = true := by
  -- Either the wait collects now, or it did before.
  have first : (custody.attempt .collect).collected = true := by
    cases collected : custody.collected <;> simp [attempt, move?, collected]
  -- Noting the exit comes after it and takes nothing back.
  have second (custody : Custody) :
      (custody.attempt .noteExit).collected = custody.collected := by
    unfold attempt
    cases moved : custody.move? .noteExit with
    | none => rfl
    | some next => exact collected_of_move? moved (by simp)
  rw [finish, second, first]

end Custody

namespace ChildProcess

/-- A later state of a child, when nobody has collected its end or made a monitor in between. -/
structure Stays (process next : ChildProcess) : Prop where
  collected : next.custody.collected = process.custody.collected
  status : ∀ status, process.status = some status → next.status = some status
  feed : process.feed.Reaches next.feed
  handedOut : next.output.handedOut = process.output.handedOut
  barren : process.output.Barren → next.output.Barren

namespace Stays

variable {process next last : ChildProcess}

theorem trans (before : process.Stays next) (after : next.Stays last) : process.Stays last where
  collected := after.collected.trans before.collected
  status status ended := after.status status (before.status status ended)
  feed := before.feed.trans after.feed
  handedOut := after.handedOut.trans before.handedOut
  barren barren := after.barren (before.barren barren)

/-- What comes of the output alone. -/
theorem of_output {output : Mux} {moves : List Move}
    (run : process.output.moves? moves = some output) :
    process.Stays { process with output } where
  collected := rfl
  status _ ended := ended
  feed := .refl _
  handedOut := Mux.moves_handedOut run
  barren barren := (barren.moves run).1

/-- What comes of the input alone. -/
theorem of_feed {feed : Feed} (reaches : process.feed.Reaches feed) :
    process.Stays { process with feed } where
  collected := rfl
  status _ ended := ended
  feed := reaches
  handedOut := rfl
  barren barren := barren

/-- What comes of requests alone. -/
theorem of_custody {custody : Custody} (collected : custody.collected = process.custody.collected) :
    process.Stays { process with custody } where
  collected := collected
  status _ ended := ended
  feed := .refl _
  handedOut := rfl
  barren barren := barren

/-- What a child writes comes to its output. -/
theorem write (process : ChildProcess) (stream : Nat) (message : Option Text) :
    process.Stays { process with output := process.output.hand stream message } where
  -- Only lanes of the output are written to.
  collected := rfl
  status _ ended := ended
  feed := .refl _
  handedOut := rfl
  barren barren := barren.hand stream message

/-- A child ends once. -/
theorem childEnds {status : ExitStatus} (going : process.status = none) :
    process.Stays { process with status := some status } where
  collected := rfl
  status _ ended := by simp [going] at ended
  feed := .refl _
  handedOut := rfl
  barren barren := barren

/-- A stop request touches all parts of a child. -/
theorem stop (process : ChildProcess) : process.Stays process.stop := by
  unfold ChildProcess.stop
  split
  · -- A stop request that came before did all there is to do.
    exact ⟨rfl, fun _ ended => ended, .refl _, rfl, id⟩
  · -- Custody, feed and output are stopped one after the other.
    obtain ⟨moves, run⟩ := Mux.stop_moves process.output
    exact ((of_custody process.custody.stop_collected).trans
      (of_feed process.feed.halt_reaches)).trans (of_output run)

/-- So does a monitor that is given up. -/
theorem giveUp (process : ChildProcess) (done : Bool) :
    process.Stays (Monitor.giveUp { process, done }) := by
  unfold Monitor.giveUp
  split
  · exact ⟨rfl, fun _ ended => ended, .refl _, rfl, id⟩
  · obtain ⟨moves, run⟩ := Mux.giveUp_moves process.stop.output
    exact (stop process).trans (of_output run)

end Stays
end ChildProcess

/-- What a monitor answers that has not come to its end, and what becomes of its child. -/
inductive Monitor.Answers (process : ChildProcess) : Glimpse × Monitor → Prop where
  | round {output : Mux} {round : Round} (serves : process.output.Serves output)
      (rounds : output.rounds = process.output.rounds ++ [round]) :
      Answers process (.round round, { process := { process with output } })
  | waiting {output : Mux} (serves : process.output.Serves output) :
      Answers process (.waiting, { process := { process with output } })
  | told {output : Mux} (serves : process.output.Serves output)
      (collected : process.custody.collected = true) :
      Answers process (.fault .alreadyTerminated, ⟨{ process with output }, true⟩)
  | ended {output : Mux} {feed : Feed} {status : ExitStatus}
      (serves : process.output.Serves output) (uncollected : process.custody.collected = false)
      (ended : process.status = some status) (reaches : process.feed.Reaches feed) :
      Answers process ((ChildProcess.endFault? status feed.outcome).elim .over .fault,
        ⟨{ process with output, feed, custody := process.custody.finish }, true⟩)

/-- A monitor shows a round, or waits, or tells of the end. -/
theorem Monitor.next_answers (process : ChildProcess) :
    Answers process (Monitor.next { process }) := by
  -- It asks for a round first, which is a run of moves of the output alone.
  obtain ⟨serves, rounds⟩ := Mux.next_serves process.output
  rcases rounds with same | ⟨round, more⟩
  · have nothing : process.output.next.rounds[process.output.rounds.length]? = none := by
      simp [same]
    by_cases finished : process.output.next.consumer = .finished
    · -- All rounds were shown, so the end is looked for; it was collected, is collected now, or has
      -- not come.
      cases collected : process.custody.collected with
      | true =>
        have shown : Monitor.next { process } = (.fault .alreadyTerminated,
            ⟨{ process with output := process.output.next }, true⟩) := by
          simp [next, nothing, finished, ChildProcess.collect, collected]
        rw [shown]
        exact .told serves collected
      | false =>
        cases status : process.status with
        | none =>
          have shown : Monitor.next { process } =
              (.waiting, { process := { process with output := process.output.next } }) := by
            simp [next, nothing, finished, ChildProcess.collect, collected, status]
          rw [shown]
          exact .waiting serves
        | some ended =>
          -- The end is collected here, and only here.
          let told := (process.feed.move? .childEnds).getD process.feed
          let feed := (told.hand none).forward
          have reaches : process.feed.Reaches feed :=
            ((Feed.Reaches.of_move (show process.feed.move? .childEnds = some told from rfl)).trans
              (told.hand_reaches none)).trans (told.hand none).forward_reaches
          have shown : Monitor.next { process } =
              ((ChildProcess.endFault? ended feed.outcome).elim .over .fault,
                ⟨{ process with
                  output := process.output.next, feed, custody := process.custody.finish },
                  true⟩) := by
            cases failed : ChildProcess.endFault? ended feed.outcome <;>
              simp [next, nothing, finished, ChildProcess.collect, collected, status, failed, told,
                feed]
          rw [shown]
          exact .ended serves collected status reaches
    · -- Without a round and without the last one there is nothing to show yet.
      have shown : Monitor.next { process } =
          (.waiting, { process := { process with output := process.output.next } }) := by
        simp [next, nothing, finished]
      rw [shown]
      exact .waiting serves
  · have first : process.output.next.rounds[process.output.rounds.length]? = some round := by
      simp [more]
    have shown : Monitor.next { process } =
        (.round round, { process := { process with output := process.output.next } }) := by
      simp [next, first]
    rw [shown]
    exact .round serves more

/-- A monitor's answers, and whether it has come to its end. -/
structure Showing where
  done : Bool := false
  glimpses : List Glimpse := []

namespace Showing

/-- Nothing but rounds was shown. -/
def IsOpen (glimpses : List Glimpse) : Prop :=
  ∀ glimpse ∈ glimpses, ∃ round, glimpse = .round round

/-- Rounds were shown, then a fault if there was one, and then nothing more. -/
def EndsWith (fault : Option ProcessFault) (glimpses : List Glimpse) : Prop :=
  ∃ (rounds : List Round) (asked : Nat), (fault = none → 0 < asked) ∧
    glimpses = rounds.map .round ++ fault.toList.map .fault ++ List.replicate asked .over

/-- Nothing was asked, or nothing but the news was shown that the end was told before. -/
def IsLate (glimpses : List Glimpse) : Prop :=
  glimpses = [] ∨
    ∃ asked, glimpses = .fault .alreadyTerminated :: List.replicate asked .over

/-- A monitor that is asked again after its end shows nothing more. -/
theorem EndsWith.over {fault : Option ProcessFault} {glimpses : List Glimpse}
    (ends : EndsWith fault glimpses) : EndsWith fault (glimpses ++ [.over]) := by
  obtain ⟨rounds, asked, -, rfl⟩ := ends
  refine ⟨rounds, asked + 1, fun _ => Nat.succ_pos _, ?_⟩
  rw [List.replicate_succ', ← List.append_assoc]

theorem IsLate.over {glimpses : List Glimpse} (late : IsLate glimpses) (some : glimpses ≠ []) :
    IsLate (glimpses ++ [.over]) := by
  obtain ⟨asked, rfl⟩ := late.resolve_left some
  refine .inr ⟨asked + 1, ?_⟩
  rw [List.replicate_succ', List.cons_append]

/-- Rounds and the news of the end after them. -/
theorem IsOpen.endsWith {glimpses : List Glimpse} (opened : IsOpen glimpses)
    (fault : Option ProcessFault) : EndsWith fault (glimpses ++ [fault.elim .over .fault]) := by
  -- What is open shows rounds alone, so it is a list of rounds.
  obtain ⟨rounds, rfl⟩ : ∃ rounds : List Round, glimpses = rounds.map .round := by
    induction glimpses with
    | nil => exact ⟨[], rfl⟩
    | cons glimpse rest ih =>
      obtain ⟨round, rfl⟩ := opened glimpse (by simp)
      obtain ⟨rounds, rfl⟩ := ih fun glimpse member => opened glimpse (by simp [member])
      exact ⟨round :: rounds, rfl⟩
  cases fault with
  | none => exact ⟨rounds, 1, by simp, by simp⟩
  | some fault => exact ⟨rounds, 0, by simp, by simp⟩

end Showing

/-- A child that is watched by one monitor after the other. -/
structure Oversight where
  process : ChildProcess
  /-- What the monitors showed that were given up, in their order. -/
  past : List (List Glimpse) := []
  /-- The monitor at hand. -/
  present : Option Showing := none

/-- One action of the child, of those who watch it, or of those who stop it. -/
inductive OversightMove where
  /-- The child writes a line to one of its streams, or ends the stream. -/
  | write (stream : Nat) (message : Option Text)
  | childEnds (status : ExitStatus)
  /-- The lines go on towards the monitor, or a stop request has come to them. -/
  | output (move : Move)
  /-- The lines for the child's input go on, or a stop request has come to them. -/
  | input (move : FeedMove)
  /-- A stop request goes on from place to place. -/
  | request (move : CustodyMove)
  | pipe (message : Option Text)
  /-- A stop request from its beginning to its end. -/
  | stop
  | monitor
  | next
  | giveUp

namespace Oversight

/-- A child that nobody has watched yet. -/
def begin (forwarded : Option (List Text)) (timed : Bool) : Oversight :=
  { process := ChildProcess.begin forwarded timed }

/-- What all monitors showed, in the order in which they were made. -/
def shown (oversight : Oversight) : List (List Glimpse) :=
  oversight.past ++ oversight.present.toList.map Showing.glimpses

/-- The state after an action, if the action is possible. -/
def move? (oversight : Oversight) : OversightMove → Option Oversight
  | .write stream message =>
    let process := oversight.process
    some { oversight with
      process := { process with output := process.output.hand stream message } }
  | .childEnds status =>
    if oversight.process.status.isNone then
      some { oversight with process := { oversight.process with status := some status } }
    else none
  | .output move =>
    -- Rounds are asked for, shown and given up by monitors alone.
    if move = .drop ∨ move = .ask ∧ oversight.present.isNone then none
    else do
      let output ← oversight.process.output.move? move
      if output.rounds = oversight.process.output.rounds then
        return { oversight with process := { oversight.process with output } }
      else none
  | .input move => do
    let feed ← oversight.process.feed.move? move
    return { oversight with process := { oversight.process with feed } }
  | .request move =>
    -- The end is collected by monitors alone.
    if move = .collect ∨ move = .noteExit then none
    else do
      let custody ← oversight.process.custody.move? move
      return { oversight with process := { oversight.process with custody } }
  | .pipe message => some { oversight with process := oversight.process.pipe message }
  | .stop => some { oversight with process := oversight.process.stop }
  | .monitor =>
    if oversight.present.isNone then
      some { oversight with process := oversight.process.monitor.process, present := some {} }
    else none
  | .next => do
    let showing ← oversight.present
    match Monitor.next { process := oversight.process, done := showing.done } with
    -- The monitor goes on waiting, and others may move.
    | (.waiting, monitor) => return { oversight with process := monitor.process }
    | (glimpse, monitor) =>
      -- The end is told only after the forwarder has come to its own.
      if monitor.process.custody.collected && !monitor.process.feed.isDone then none
      return { oversight with
        process := monitor.process
        present := some ⟨monitor.done, showing.glimpses ++ [glimpse]⟩ }
  | .giveUp => do
    let showing ← oversight.present
    -- A monitor that was asked is not given up before it answers.
    if showing.done || oversight.process.output.consumer = .resting then
      return { oversight with
        process := Monitor.giveUp { process := oversight.process, done := showing.done }
        past := oversight.past ++ [showing.glimpses]
        present := none }
    else none

/-- The state after several actions. -/
def moves? (oversight : Oversight) (moves : List OversightMove) : Option Oversight :=
  moves.foldlM move? oversight

/-- A run begins with its first move. -/
theorem moves?_cons {oversight last : Oversight} {move : OversightMove}
    {rest : List OversightMove} :
    oversight.moves? (move :: rest) = some last ↔
      ∃ next, oversight.move? move = some next ∧ next.moves? rest = some last := by
  simp [moves?, Option.bind_eq_some_iff]

/-- What a monitor tells of an end: what is wrong with the child's, or else with the forwarder's. -/
def report (status : ExitStatus) (fault : Option WriteFault) : Option ProcessFault :=
  if status.isClean then fault.map .forwarding else some (.failed status)

/-- That is what a monitor makes of the two once the forwarder has ended. -/
theorem endFault?_of_done {feed : Feed} {fault : Option WriteFault}
    (done : feed.place = .done fault) (status : ExitStatus) :
    ChildProcess.endFault? status feed.outcome = report status fault := by
  rw [Feed.outcome_of_done done]
  cases fault <;> rfl

/-- The end was collected, and these are the child's and the forwarder's. -/
structure Ended (oversight : Oversight) (status : ExitStatus) (fault : Option WriteFault) :
    Prop where
  collected : oversight.process.custody.collected = true
  status : oversight.process.status = some status
  forwarder : oversight.process.feed.place = .done fault

/-- How far the news of the end has come. -/
inductive Phase (oversight : Oversight) : Prop where
  /-- No monitor has come to its end. -/
  | untold (uncollected : oversight.process.custody.collected = false)
      (past : ∀ glimpses ∈ oversight.past, Showing.IsOpen glimpses)
      (present : ∀ showing, oversight.present = some showing →
        showing.done = false ∧ Showing.IsOpen showing.glimpses)
  /-- The monitor at hand was the first to come to its end. -/
  | telling {status : ExitStatus} {fault : Option WriteFault} {glimpses : List Glimpse}
      (ended : oversight.Ended status fault)
      (past : ∀ glimpses ∈ oversight.past, Showing.IsOpen glimpses)
      (here : oversight.present = some ⟨true, glimpses⟩)
      (ends : Showing.EndsWith (report status fault) glimpses)
  /-- The first to come to its end was given up. -/
  | told {status : ExitStatus} {fault : Option WriteFault} {before after : List (List Glimpse)}
      {first : List Glimpse} (ended : oversight.Ended status fault)
      (past : oversight.past = before ++ first :: after)
      (opened : ∀ glimpses ∈ before, Showing.IsOpen glimpses)
      (ends : Showing.EndsWith (report status fault) first)
      (late : ∀ glimpses ∈ after, Showing.IsLate glimpses)
      (present : ∀ showing, oversight.present = some showing → Showing.IsLate showing.glimpses ∧
        (showing.done = false ↔ showing.glimpses = []))

/-- Only the first monitor is given lines. -/
structure Single (oversight : Oversight) : Prop where
  handedOut : oversight.shown ≠ [] → oversight.process.output.handedOut = true
  barren : oversight.past ≠ [] → oversight.present.isSome = true →
    oversight.process.output.Barren
  roundless : ∀ glimpses ∈ oversight.shown.tail, ∀ round, .round round ∉ glimpses

variable {oversight next last : Oversight} {process : ChildProcess} {move : OversightMove}

theorem Ended.stay {status : ExitStatus} {fault : Option WriteFault}
    (ended : oversight.Ended status fault) (stays : oversight.process.Stays process)
    {past : List (List Glimpse)} {present : Option Showing} :
    ({ process, past, present } : Oversight).Ended status fault where
  collected := stays.collected.trans ended.collected
  status := stays.status status ended.status
  forwarder := stays.feed.done ended.forwarder

namespace Phase

/-- What collects no end and shows nothing brings no news. -/
theorem stay (phase : oversight.Phase) (stays : oversight.process.Stays process) :
    ({ oversight with process } : Oversight).Phase := by
  -- The phase speaks of what was collected and shown, which is as it was.
  cases phase with
  | untold uncollected past present =>
    exact .untold (stays.collected.trans uncollected) past present
  | telling ended past here ends => exact .telling (ended.stay stays) past here ends
  | told ended past opened ends late present =>
    exact .told (ended.stay stays) past opened ends late present

/-- A new monitor has shown nothing. -/
theorem monitor (phase : oversight.Phase) (absent : oversight.present = none) :
    ({ oversight with
      process := oversight.process.monitor.process, present := some {} } : Oversight).Phase := by
  cases phase with
  | untold uncollected past =>
    -- Nobody was told before, and the new monitor has shown nothing yet.
    refine .untold uncollected past fun showing here => ?_
    obtain rfl : {} = showing := Option.some.inj here
    exact ⟨rfl, nofun⟩
  | telling ended past here => simp [absent] at here
  -- The end was told, so the new monitor is a late one that was not asked.
  | told ended past opened ends late =>
    refine .told ⟨ended.collected, ended.status, ended.forwarder⟩ past opened ends late
      fun showing here => ?_
    obtain rfl : {} = showing := Option.some.inj here
    exact ⟨.inl rfl, by simp⟩

/-- What a monitor showed that is given up is kept. -/
theorem giveUp {showing : Showing} (phase : oversight.Phase)
    (stays : oversight.process.Stays process) (here : oversight.present = some showing) :
    ({ process, past := oversight.past ++ [showing.glimpses], present := none } :
      Oversight).Phase := by
  cases phase with
  | untold uncollected past present =>
    refine .untold (stays.collected.trans uncollected) (fun glimpses member => ?_) (by simp)
    -- No monitor has come to its end, so this one has shown rounds alone.
    rcases List.mem_append.mp member with earlier | this
    · exact past glimpses earlier
    · obtain rfl : glimpses = showing.glimpses := by simpa using this
      exact (present showing here).2
  | @telling status fault glimpses ended past at_ ends =>
    -- This monitor is the one that told the end, and becomes the first of the past.
    obtain rfl : ⟨true, glimpses⟩ = showing := Option.some.inj (at_.symm.trans here)
    exact .told (ended.stay stays) rfl past ends (by simp) (by simp)
  | @told status fault before after first ended past opened ends late present =>
    -- A later one joins those behind the one that told it.
    have later : ∀ glimpses ∈ after ++ [showing.glimpses], Showing.IsLate glimpses := by
      intro glimpses member
      rcases List.mem_append.mp member with earlier | this
      · exact late glimpses earlier
      · obtain rfl : glimpses = showing.glimpses := by simpa using this
        exact (present showing here).1
    exact .told (ended.stay stays) (by simp [past]) opened ends later (by simp)

/-- A monitor that has come to its end stays there. -/
theorem atEnd {glimpses : List Glimpse} (phase : oversight.Phase)
    (here : oversight.present = some ⟨true, glimpses⟩) :
    ({ oversight with present := some ⟨true, glimpses ++ [.over]⟩ } : Oversight).Phase := by
  cases phase with
  -- A monitor comes to its end only by telling it.
  | untold uncollected past present => cases (present _ here).1
  | @telling status fault shown ended past at_ ends =>
    obtain rfl : shown = glimpses := by simpa [here] using at_.symm
    exact .telling ⟨ended.collected, ended.status, ended.forwarder⟩ past rfl ends.over
  -- A late monitor that is at its end was asked before.
  | told ended past opened ends late present =>
    obtain ⟨isLate, asked⟩ := present _ here
    have some : glimpses ≠ [] := fun none => by simp [none] at asked
    refine .told ⟨ended.collected, ended.status, ended.forwarder⟩ past opened ends late
      fun showing same => ?_
    obtain rfl : ⟨true, glimpses ++ [.over]⟩ = showing := Option.some.inj same
    exact ⟨isLate.over some, by simp⟩

/-- A round comes before the end. -/
theorem round {glimpses : List Glimpse} {round : Round} (phase : oversight.Phase)
    (here : oversight.present = some ⟨false, glimpses⟩) (first : oversight.past = [])
    (stays : oversight.process.Stays process) :
    ({ oversight with process, present := some ⟨false, glimpses ++ [.round round]⟩ } :
      Oversight).Phase := by
  cases phase with
  -- The end was not told, so one more round is in place.
  | untold uncollected past present =>
    refine .untold (stays.collected.trans uncollected) past fun showing same => ?_
    obtain rfl : ⟨false, glimpses ++ [.round round]⟩ = showing := Option.some.inj same
    refine ⟨rfl, fun glimpse member => ?_⟩
    rcases List.mem_append.mp member with earlier | this
    · exact (present _ here).2 glimpse earlier
    · exact ⟨round, by simpa using this⟩
  -- A monitor that told the end shows no round, and there is none after another.
  | telling ended past at_ => simp [here] at at_
  | told ended past => simp [first] at past

/-- A monitor that comes to its end after another one is told so. -/
theorem again {glimpses : List Glimpse} (phase : oversight.Phase)
    (here : oversight.present = some ⟨false, glimpses⟩)
    (stays : oversight.process.Stays process)
    (collected : oversight.process.custody.collected = true) :
    ({ oversight with
      process, present := some ⟨true, glimpses ++ [.fault .alreadyTerminated]⟩ } :
      Oversight).Phase := by
  cases phase with
  | untold uncollected => simp [uncollected] at collected
  | telling ended past at_ => simp [here] at at_
  | told ended past opened ends late present =>
    refine .told (ended.stay stays) past opened ends late fun showing same => ?_
    obtain rfl : ⟨true, glimpses ++ [.fault .alreadyTerminated]⟩ = showing := Option.some.inj same
    -- It had shown nothing before, since there are no rounds for it.
    obtain rfl : glimpses = [] := (present _ here).2.mp rfl
    exact ⟨.inr ⟨0, rfl⟩, by simp⟩

/-- The first monitor to come to its end tells it. -/
theorem tell {glimpses : List Glimpse} {status : ExitStatus} {fault : Option WriteFault}
    (phase : oversight.Phase) (here : oversight.present = some ⟨false, glimpses⟩)
    (uncollected : oversight.process.custody.collected = false)
    (ended : ({ oversight with process } : Oversight).Ended status fault) :
    ({ oversight with
      process, present := some ⟨true, glimpses ++ [(report status fault).elim .over .fault]⟩ } :
      Oversight).Phase := by
  cases phase with
  -- Now the end is collected, so this is the first to tell it.
  | untold _ past present =>
    exact .telling ⟨ended.collected, ended.status, ended.forwarder⟩ past rfl
      ((present _ here).2.endsWith _)
  | telling before | told before => simp [before.collected] at uncollected

end Phase

namespace Single

/-- Whoever moves, the lines stay with the monitor that has them. -/
theorem stay (single : oversight.Single) (stays : oversight.process.Stays process) :
    ({ oversight with process } : Oversight).Single where
  handedOut watched := stays.handedOut.trans (single.handedOut watched)
  barren later here := stays.barren (single.barren later here)
  roundless := single.roundless

/-- A second monitor is given no lines. -/
theorem monitor (single : oversight.Single) (absent : oversight.present = none) :
    ({ oversight with
      process := oversight.process.monitor.process, present := some {} } : Oversight).Single where
  handedOut _ := by
    simp only [ChildProcess.monitor, Mux.handOut]
    split
    · assumption
    · rfl
  barren later _ := by
    -- Another was watched before, so the queues went to that one.
    have watched : oversight.shown ≠ [] := by simpa [shown, absent] using later
    exact .handOut (single.handedOut watched)
  roundless glimpses member round := by
    have before := single.roundless
    simp only [shown, absent] at before member
    -- Only what later monitors show is looked at, and this one has shown nothing yet.
    by_cases first : oversight.past = []
    · simp [first] at member
    · rw [List.tail_append_of_ne_nil first] at before member
      rcases List.mem_append.mp member with earlier | this
      · exact before glimpses (by simpa using earlier) round
      · obtain rfl : glimpses = [] := by simpa using this
        simp

/-- What a monitor showed that is given up stays in its place. -/
theorem giveUp {showing : Showing} (single : oversight.Single)
    (stays : oversight.process.Stays process) (here : oversight.present = some showing) :
    ({ process, past := oversight.past ++ [showing.glimpses], present := none } :
      Oversight).Single := by
  have same : ({ process, past := oversight.past ++ [showing.glimpses], present := none } :
      Oversight).shown = oversight.shown := by simp [shown, here]
  -- The same things were shown, though by nobody now.
  refine ⟨fun watched => ?_, fun _ isHere => ?_, ?_⟩
  · exact stays.handedOut.trans (single.handedOut (same ▸ watched))
  · cases isHere
  · rw [same]
    exact single.roundless

/-- A later monitor shows something else than rounds. -/
theorem answer {done changed : Bool} {glimpses : List Glimpse} {glimpse : Glimpse}
    (single : oversight.Single) (here : oversight.present = some ⟨done, glimpses⟩)
    (handedOut : process.output.handedOut = oversight.process.output.handedOut)
    (barren : oversight.process.output.Barren → process.output.Barren)
    (other : oversight.past ≠ [] → ∀ round, glimpse ≠ .round round) :
    ({ oversight with process, present := some ⟨changed, glimpses ++ [glimpse]⟩ } :
      Oversight).Single where
  handedOut _ := handedOut.trans (single.handedOut (by simp [shown, here]))
  barren later _ := barren (single.barren later (by simp [here]))
  roundless shownBy member round inside := by
    have before := single.roundless
    simp only [shown, here] at before member
    -- The first monitor may show rounds.
    by_cases first : oversight.past = []
    · simp [first] at member
    · rw [List.tail_append_of_ne_nil first] at before member
      rcases List.mem_append.mp member with earlier | this
      · exact before shownBy (by simp [earlier]) round inside
      · obtain rfl : shownBy = glimpses ++ [glimpse] := by simpa using this
        -- What a later one showed before has no round, and nor is the new thing one.
        rcases List.mem_append.mp inside with old | new
        · exact before glimpses (by simp) round old
        · exact other first round (List.mem_singleton.mp new).symm

end Single

/-- The news of the end and the lines stay in order. -/
structure Sound (oversight : Oversight) : Prop where
  phase : oversight.Phase
  single : oversight.Single

/-- A monitor that is asked goes on waiting, or shows something. -/
theorem answer_of_next {done : Bool} {glimpses : List Glimpse}
    (here : oversight.present = some ⟨done, glimpses⟩)
    (moved : oversight.move? .next = some next) :
    let answer := Monitor.next { process := oversight.process, done }
    (answer.1 = .waiting ∧ next = { oversight with process := answer.2.process }) ∨
      (answer.1 ≠ .waiting ∧
        (answer.2.process.custody.collected = true → answer.2.process.feed.isDone = true) ∧
        next = { oversight with
          process := answer.2.process
          present := some ⟨answer.2.done, glimpses ++ [answer.1]⟩ }) := by
  simp only [move?, here, Option.bind_eq_bind, Option.bind_some, Option.pure_def] at moved
  dsimp only
  generalize Monitor.next { process := oversight.process, done } = answer at moved
  obtain ⟨glimpse, monitor⟩ := answer
  split at moved
  · -- It waits, and nothing is shown.
    rename_i same
    obtain ⟨rfl, rfl⟩ := Prod.mk.inj same
    exact .inl ⟨rfl, by simpa [here] using moved.symm⟩
  · -- It shows something; the end only once the forwarder is done.
    rename_i answered same
    obtain ⟨rfl, rfl⟩ := Prod.mk.inj same
    split at moved
    · simp at moved
    · rename_i awaited
      exact .inr ⟨answered, by simpa using awaited,
        (Option.some.inj moved).symm⟩

namespace Sound

/-- Nobody has watched the child yet. -/
theorem begin (forwarded : Option (List Text)) (timed : Bool) :
    (Oversight.begin forwarded timed).Sound where
  phase := .untold rfl (by simp [Oversight.begin]) (by simp [Oversight.begin])
  single := ⟨fun watched => absurd rfl watched, fun later => absurd rfl later, nofun⟩

theorem stay (sound : oversight.Sound) (stays : oversight.process.Stays process) :
    ({ oversight with process } : Oversight).Sound :=
  ⟨sound.phase.stay stays, sound.single.stay stays⟩

/-- What a monitor answers keeps all in order. -/
theorem answer (sound : oversight.Sound) (moved : oversight.move? .next = some next) :
    next.Sound := by
  obtain ⟨⟨done, glimpses⟩, here⟩ : ∃ showing, oversight.present = some showing := by
    cases here : oversight.present with
    | none => simp [move?, here] at moved
    | some showing => exact ⟨showing, rfl⟩
  have shown := answer_of_next here moved
  cases done with
  | true =>
    -- A monitor that has come to its end changes nothing.
    have answer : Monitor.next { process := oversight.process, done := true } =
        (.over, { process := oversight.process, done := true }) := by simp [Monitor.next]
    rw [answer] at shown
    rcases shown with ⟨waits, -⟩ | ⟨-, -, rfl⟩
    · cases waits
    · exact ⟨sound.phase.atEnd here, sound.single.answer here rfl id (by simp)⟩
  | false =>
    have answers := Monitor.next_answers oversight.process
    generalize Monitor.next { process := oversight.process } = answer at answers shown
    cases answers with
    | @round output round serves rounds =>
      obtain ⟨moves, -, run⟩ := serves
      have stays : oversight.process.Stays { oversight.process with output } := .of_output run
      -- A later monitor has no queue to take a line from.
      have first : oversight.past = [] := Classical.byContradiction fun later => by
        have same := ((sound.single.barren later (by simp [here])).moves run).2
        simp [rounds] at same
      rcases shown with ⟨waits, -⟩ | ⟨-, -, rfl⟩
      · cases waits
      · exact ⟨sound.phase.round here first stays,
          sound.single.answer here stays.handedOut stays.barren fun later => absurd first later⟩
    | waiting serves =>
      obtain ⟨moves, -, run⟩ := serves
      rcases shown with ⟨-, rfl⟩ | ⟨answered, -⟩
      · exact sound.stay (.of_output run)
      · exact absurd rfl answered
    | @told output serves collected =>
      obtain ⟨moves, -, run⟩ := serves
      have stays : oversight.process.Stays { oversight.process with output } := .of_output run
      rcases shown with ⟨waits, -⟩ | ⟨-, -, rfl⟩
      · cases waits
      · exact ⟨sound.phase.again here stays collected,
          sound.single.answer here stays.handedOut stays.barren (by simp)⟩
    | @ended output feed status serves uncollected ended reaches =>
      obtain ⟨moves, -, run⟩ := serves
      have stays : oversight.process.Stays { oversight.process with output } := .of_output run
      -- Neither a fault nor its absence is a wait, or a round.
      have other (fault : Option ProcessFault) : fault.elim Glimpse.over .fault ≠ .waiting ∧
          ∀ round, fault.elim Glimpse.over .fault ≠ .round round := by cases fault <;> simp
      rcases shown with ⟨waits, -⟩ | ⟨-, awaited, rfl⟩
      · exact absurd waits (other _).1
      · have collected : oversight.process.custody.finish.collected = true :=
          Custody.finish_collected _
        obtain ⟨fault, forwarder⟩ := Feed.isDone_iff.mp (awaited collected)
        refine ⟨?_, sound.single.answer here stays.handedOut stays.barren fun _ => (other _).2⟩
        rw [endFault?_of_done forwarder]
        exact sound.phase.tell here uncollected ⟨collected, ended, forwarder⟩

/-- Every action keeps the news and the lines in order. -/
theorem step (sound : oversight.Sound) (moved : oversight.move? move = some next) :
    next.Sound := by
  cases move with
  | write stream message =>
    -- What is written is not shown yet.
    obtain rfl : _ = next := by simpa only [move?, Option.some.injEq] using moved
    exact sound.stay (.write _ stream message)
  | childEnds status =>
    simp only [move?, Option.ite_none_right_eq_some, Option.isNone_iff_eq_none,
      Option.some.injEq] at moved
    obtain ⟨going, rfl⟩ := moved
    -- The status is noted, but nobody collected it.
    exact sound.stay (.childEnds going)
  | output move =>
    simp only [move?, Option.ite_none_left_eq_some, Option.bind_eq_bind, Option.pure_def,
      Option.bind_eq_some_iff, Option.ite_none_right_eq_some, Option.some.injEq] at moved
    obtain ⟨-, output, moved, -, rfl⟩ := moved
    have run : oversight.process.output.moves? [move] = some output := by
      simp [Mux.moves?, moved]
    -- Rounds that are made are not shown yet.
    exact sound.stay (.of_output run)
  | input move =>
    simp only [move?, Option.bind_eq_bind, Option.pure_def, Option.bind_eq_some_iff,
      Option.some.injEq] at moved
    obtain ⟨feed, moved, rfl⟩ := moved
    exact sound.stay (.of_feed (.of_move moved))
  | request move =>
    simp only [move?, Option.ite_none_left_eq_some, Option.bind_eq_bind, Option.pure_def,
      Option.bind_eq_some_iff, Option.some.injEq, not_or] at moved
    obtain ⟨⟨other, -⟩, custody, moved, rfl⟩ := moved
    exact sound.stay (.of_custody (Custody.collected_of_move? moved other))
  | pipe message =>
    obtain rfl : _ = next := by simpa only [move?, Option.some.injEq] using moved
    exact sound.stay (.of_feed (oversight.process.feed.hand_reaches message))
  | stop =>
    obtain rfl : _ = next := by simpa only [move?, Option.some.injEq] using moved
    exact sound.stay (.stop _)
  | monitor =>
    simp only [move?, Option.ite_none_right_eq_some, Option.isNone_iff_eq_none,
      Option.some.injEq] at moved
    obtain ⟨absent, rfl⟩ := moved
    exact ⟨sound.phase.monitor absent, sound.single.monitor absent⟩
  | next => exact sound.answer moved
  | giveUp =>
    simp only [move?, Option.bind_eq_bind, Option.pure_def, Option.bind_eq_some_iff,
      Option.ite_none_right_eq_some, Option.some.injEq] at moved
    obtain ⟨showing, here, -, rfl⟩ := moved
    -- What the monitor showed goes to the past, and the child is stopped.
    exact ⟨sound.phase.giveUp (.giveUp _ _) here, sound.single.giveUp (.giveUp _ _) here⟩

/-- So does every run. -/
theorem moves {moves : List OversightMove} (sound : oversight.Sound)
    (run : oversight.moves? moves = some last) : last.Sound := by
  induction moves generalizing oversight with
  | nil =>
    obtain rfl : oversight = last := by simpa [moves?] using run
    exact sound
  | cons move rest ih =>
    obtain ⟨next, moved, run⟩ := moves?_cons.mp run
    exact ih (sound.step moved) run

end Sound

/-- Among all monitors the first one to come to its end tells it. -/
theorem Phase.of_shown (phase : oversight.Phase) :
    (∀ glimpses ∈ oversight.shown, Showing.IsOpen glimpses) ∨
      ∃ before first after status fault, oversight.shown = before ++ first :: after ∧
        oversight.Ended status fault ∧ (∀ glimpses ∈ before, Showing.IsOpen glimpses) ∧
        Showing.EndsWith (report status fault) first ∧
        ∀ glimpses ∈ after, Showing.IsLate glimpses := by
  cases phase with
  -- Nobody told the end, so all have shown rounds alone.
  | untold _ past present =>
    refine .inl fun glimpses member => ?_
    rcases List.mem_append.mp member with earlier | at_
    · exact past glimpses earlier
    · obtain ⟨showing, here, rfl⟩ : ∃ showing, oversight.present = some showing ∧
          showing.glimpses = glimpses := by simpa using at_
      exact (present showing here).2
  | @telling status fault glimpses ended past here ends =>
    -- The monitor that is there told it, and there is none after it.
    exact .inr ⟨oversight.past, glimpses, [], status, fault, by simp [shown, here], ended, past,
      ends, nofun⟩
  | @told status fault before after first ended past opened ends late present =>
    -- The one that told it is among the past, and the one that is there is late.
    refine .inr ⟨before, first, after ++ oversight.present.toList.map Showing.glimpses, status,
      fault, by simp [shown, past], ended, opened, ends, fun glimpses member => ?_⟩
    rcases List.mem_append.mp member with earlier | at_
    · exact late glimpses earlier
    · obtain ⟨showing, here, rfl⟩ : ∃ showing, oversight.present = some showing ∧
          showing.glimpses = glimpses := by simpa using at_
      exact (present showing here).1

/-- Success and an interruption are what is told as no fault of the child. -/
theorem report_of_clean {status : ExitStatus}
    (clean : status = .exited 0 ∨ status = .killed Signal.interrupt) (fault : Option WriteFault) :
    report status fault = fault.map .forwarding := by
  rcases clean with rfl | rfl <;> simp [report, ExitStatus.isClean]

/-- Any other end is told as a failure, whatever became of the forwarder. -/
theorem report_of_unclean {status : ExitStatus}
    (unclean : ¬(status = .exited 0 ∨ status = .killed Signal.interrupt))
    (fault : Option WriteFault) : report status fault = some (.failed status) := by
  have failed : status.isClean = false := by
    cases status <;> simpa [ExitStatus.isClean] using unclean
  simp [report, failed]

/-- In whatever order a child writes and ends, its lines and the lines for its input go on, stop
requests come, and monitors are made, asked and given up: no monitor but the first shows a round.
Either all monitors have shown rounds alone so far, or one was the first to come to its end. It
showed rounds and then, once, what was wrong: that the child failed, if it neither succeeded nor was
interrupted, and else the fault that the forwarder left, if there is one; and nothing after that.
Those before it showed rounds alone; those after it show that the end was told, and nothing more. -/
theorem end_is_told_once (forwarded : Option (List Text)) (timed : Bool)
    (moves : List OversightMove) (oversight : Oversight)
    (run : (Oversight.begin forwarded timed).moves? moves = some oversight) :
    (∀ glimpses ∈ oversight.shown.tail, ∀ round, .round round ∉ glimpses) ∧
    ((∀ glimpses ∈ oversight.shown, Showing.IsOpen glimpses) ∨
      ∃ before first after status fault, oversight.shown = before ++ first :: after ∧
        oversight.process.status = some status ∧ oversight.process.feed.place = .done fault ∧
        (∀ glimpses ∈ before, Showing.IsOpen glimpses) ∧
        (status = .exited 0 ∨ status = .killed Signal.interrupt →
          Showing.EndsWith (fault.map .forwarding) first) ∧
        (¬(status = .exited 0 ∨ status = .killed Signal.interrupt) →
          Showing.EndsWith (some (.failed status)) first) ∧
        ∀ glimpses ∈ after, Showing.IsLate glimpses) := by
  have sound := (Sound.begin forwarded timed).moves run
  -- The phase is what the second part asks, with the report read by the status.
  refine ⟨sound.single.roundless, sound.phase.of_shown.imp_right ?_⟩
  rintro ⟨before, first, after, status, fault, shown, ended, opened, ends, late⟩
  refine ⟨before, first, after, status, fault, shown, ended.status, ended.forwarder, opened,
    fun clean => ?_, fun unclean => ?_, late⟩
  · rwa [report_of_clean clean] at ends
  · rwa [report_of_unclean unclean] at ends

/-- A line for the input cannot be written, and a monitor is given up after a round; the next one
tells that the child failed, and the third one that this was told. -/
theorem end_is_told_once_after_giving_up :
    let refusal : List FeedMove := [.pipe (some ['x']), .source (.reader 0), .source (.reader 0),
      .source (.reader 0), .source .ask, .source .check, .source .wakeUp, .source .recheck,
      .source .take, .source .settle, .collect, .turn, .refuse ⟨.other, none⟩, .close]
    let moves : List OversightMove := [.write 0 (some ['a']), .write 1 (some ['b'])] ++
      refusal.map .input ++ [.monitor, .next, .giveUp, .stop, .childEnds (.exited 3), .monitor,
      .next, .next, .giveUp, .monitor, .next, .next]
    ∃ oversight, (Oversight.begin none false).moves? moves = some oversight ∧
      oversight.shown = [[.round ⟨[some ['a'], some ['b']]⟩],
        [.fault (.failed (.exited 3)), .over], [.fault .alreadyTerminated, .over]] ∧
      ∃ before first after, oversight.shown = before ++ first :: after ∧
        Showing.EndsWith (some (.failed (.exited 3))) first := by
  intro refusal moves
  have shows : ((Oversight.begin none false).moves? moves).any (fun oversight =>
      oversight.shown == [[.round ⟨[some ['a'], some ['b']]⟩],
        [.fault (.failed (.exited 3)), .over], [.fault .alreadyTerminated, .over]] &&
      oversight.process.status == some (.exited 3)) = true := by
    decide +kernel
  obtain ⟨oversight, run, shown⟩ := (Option.any_eq_true _ _).mp shows
  simp only [Bool.and_eq_true, beq_iff_eq] at shown
  obtain ⟨shown, ended⟩ := shown
  refine ⟨oversight, run, shown, ?_⟩
  rcases (end_is_told_once none false moves oversight run).2 with opened | told
  · -- The second monitor did not only show rounds.
    obtain ⟨round, same⟩ := opened [.fault (.failed (.exited 3)), .over] (by simp [shown])
      (.fault (.failed (.exited 3))) (by simp)
    cases same
  · obtain ⟨before, first, after, status, fault, split, same, -, -, -, failed, -⟩ := told
    obtain rfl : status = .exited 3 := Option.some.inj (same.symm.trans ended)
    exact ⟨before, first, after, split, failed (by decide)⟩

end Oversight
end IdlScout
