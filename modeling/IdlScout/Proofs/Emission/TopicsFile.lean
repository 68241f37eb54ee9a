import IdlScout.Proofs.Emission.TextPaths
import IdlScout.Proofs.Emission.TopicMap
import IdlScout.Proofs.Session.Exchanges

/-! The file of a map of topics: it is opened at the start of a run, set aside while other receivers
write interface text, and holds the whole map at the end. -/

namespace IdlScout

/-- The file of a map of topics: its path, the place that this leads to, and what is kept of what it
held before. -/
structure MapFile where
  format : MapFormat
  path : Text
  append : Bool
  place : Location
  kept : Bytes

namespace Emitter

open FileTree (SetsAside Avoids)

variable {home : Location} {notices : List Notice} {paths : List Text}

/-- A detection is logged before the receivers are told. -/
theorem of_reactAll {notice : Notice} {emitters last : List Emitter} {world after : World}
    (ran : reactAll notice (emitters, world) = (.ok (), last, after)) :
    ∃ noted : World, noted.tree = world.tree ∧
      reactEach notice emitters noted = (.ok (), last, after) := by
  have announced : ∃ noted : World, noted.tree = world.tree ∧
      announce notice (emitters, world) = (.ok (), emitters, noted) := by
    -- Only detections are announced.
    cases notice with
    | opened | closed => exact ⟨world, rfl, rfl⟩
    | type | topic => exact ⟨_, World.note_tree .., rfl⟩
  obtain ⟨noted, same, logged⟩ := announced
  unfold reactAll at ran
  rw [Act.bind_of_ok logged] at ran
  exact ⟨noted, same, ran⟩

section Topics

variable {format : MapFormat} {path : Text} {options : OutputOptions} {world after : World}

/-- The file of a map of topics that is opened is set aside, with what is kept of it. -/
theorem topics_opened (paths : List Text) (given : options.path = some path)
    (whole : options.split = false) {later : Emitter}
    (ran : react .opened (⟨.topics format [], { options }⟩, world) = (.ok (), later, after)) :
    ∃ place kept, later.target.handle = some ⟨place, 0, options.append⟩ ∧
      after.tree.SetsAside path paths place kept ∧ after.tree.home = world.tree.home ∧
      (kept = [] ∨ options.append = true ∧
        ∃ executable, world.tree.entry? place = some (.file kept executable)) := by
  have reacts : react .opened (⟨.topics format [], { options }⟩, world) =
      onTarget Target.start (⟨.topics format [], { options }⟩, world) := rfl
  rw [reacts, onTarget, Target.start_of_single world whole given] at ran
  have opens := Target.openFile_opens_anywhere path options.append { options } world
  generalize Target.openFile path options.append _ = opened at opens ran
  -- An opening that ended well has opened the file.
  cases opens with
  | refused | failed => cases ran
  | @opened handle made done allowed grows opens =>
    cases ran
    obtain ⟨fresh, kept, writes, keeps⟩ :=
      FileTree.keepsFile_of_openFile opens rfl fun _ => FileTree.isInside_root
    refine ⟨handle.location, kept, congrArg some fresh,
      ⟨writes.leads, writes.content.imp_right .inr⟩, writes.grows.home.trans grows.home, ?_⟩
    rcases keeps with nothing | ⟨appends, executable, found⟩
    · exact .inl nothing
    refine .inr ⟨appends, executable, ?_⟩
    -- The folders that were made for it are no files.
    rcases grows.entries handle.location with same | ⟨-, changed⟩
    · exact same.symm.trans found
    · rw [found] at changed
      generalize world.tree.entry? handle.location = was at changed
      cases changed with
      | made isWritten | rewritten isWritten => cases isWritten

/-- A detection changes the map alone. -/
theorem topics_detected {first later : Emitter} {topics : TopicMap} {notice : Notice}
    (kind : first.kind = .topics format topics) (detection : notice.IsDetection)
    (ran : react notice (first, world) = (.ok (), later, after)) :
    later.target = first.target ∧ after = world := by
  obtain ⟨kind', target⟩ := first
  obtain rfl := kind
  -- The map is part of the receiver's kind, which is the only thing that changes.
  cases notice with
  | opened | closed => cases detection
  | type | topic =>
    cases ran
    exact ⟨rfl, rfl⟩

/-- At the end the map is written. -/
theorem topics_closed {first later : Emitter} {topics : TopicMap} {handle : Handle}
    {types : List DetectedType} {found : List DetectedTopic}
    (kind : first.kind = .topics format topics) (isOpen : first.target.handle = some handle)
    (ran : react (.closed types found) (first, world) = (.ok (), later, after)) :
    after.tree =
      (world.tree.write handle (Utf8.encode (Target.ended (topics.print format)))).2 := by
  obtain ⟨kind', target⟩ := first
  obtain rfl := kind
  -- The file is open, so the map is not printed.
  rcases Target.write_apply (topics.print format) target world with
    ⟨standard, -⟩ | ⟨other, given, wrote⟩
  · rw [isOpen] at standard
    cases standard
  · obtain rfl := Option.some.inj (isOpen.symm.trans given)
    have reacts : react (.closed types found) (⟨.topics format topics, target⟩, world) =
        (onTarget (Target.write (topics.print format)) >>= fun _ => onTarget Target.finish)
          (⟨.topics format topics, target⟩, world) := rfl
    rw [reacts, Act.bind_apply] at ran
    simp only [onTarget, wrote] at ran
    cases ran
    rfl

end Topics

/-- Receivers that wait for the end of a run: the first has collected the topics so far and its file
is set aside, the others write interface text where some paths lead. -/
structure Awaits (file : MapFile) (home : Location) (notices : List Notice) (paths : List Text)
    (done : List Notice) (tree : FileTree) (first : Emitter) (others : List Emitter) : Prop where
  collects : ∃ topics, first.Collects file.format done topics
  isOpen : first.target.handle = some ⟨file.place, 0, file.append⟩
  aside : tree.SetsAside file.path paths file.place file.kept
  texts : ∀ other ∈ others, other.IsText home notices paths tree

section Awaiting

variable {file : MapFile} {done : List Notice} {first : Emitter} {others last : List Emitter}
  {world after : World}

/-- Others that avoid the files do not disturb the receivers. -/
theorem Awaits.avoids {before later : FileTree}
    (awaits : Awaits file home notices paths done before first others)
    (avoids : Avoids file.path paths before later) :
    Awaits file home notices paths done later first others :=
  ⟨awaits.collects, awaits.isOpen, awaits.aside.avoids avoids, fun other member =>
    (awaits.texts other member).avoids avoids⟩

/-- After a detection the receivers wait on. -/
theorem Awaits.detected {notice : Notice}
    (awaits : Awaits file home notices paths done world.tree first others)
    (detection : notice.IsDetection) (told : notice ∈ notices)
    (ran : reactAll notice (first :: others, world) = (.ok (), last, after)) :
    ∃ later rest, last = later :: rest ∧
      Awaits file home notices paths (done ++ [notice]) after.tree later rest := by
  obtain ⟨noted, same, ran⟩ := of_reactAll ran
  -- The first receiver reacts first, the others to the tree that it left.
  obtain ⟨later, rest, middle, rfl, reacts, others⟩ := of_reactEach_cons ran
  obtain ⟨topics, collects⟩ := awaits.collects
  obtain ⟨target, unchanged⟩ := topics_detected collects.kind detection reacts
  obtain rfl : middle = noted := unchanged
  -- The first receiver writes nothing yet, the others write where their paths lead.
  have opened : notice ≠ .opened := by
    rintro rfl
    exact detection
  rw [← same] at awaits
  obtain ⟨grows, texts⟩ := texts_of_reactEach told opened awaits.texts others
  have next := collects.step notice middle
  rw [reacts] at next
  exact ⟨later, rest, rfl, ⟨_, next⟩, target ▸ awaits.isOpen, awaits.aside.grows grows, texts⟩

/-- When the receivers have been opened they wait. -/
theorem awaits_of_opened {format : MapFormat} {path : Text} {options : OutputOptions}
    (given : options.path = some path) (whole : options.split = false)
    (fresh : ∀ other ∈ others, other.IsFreshText world.tree.home notices paths)
    (ran : reactAll .opened (⟨.topics format [], { options }⟩ :: others, world) =
      (.ok (), last, after)) :
    ∃ place kept later rest, last = later :: rest ∧
      Awaits ⟨format, path, options.append, place, kept⟩ world.tree.home notices paths [.opened]
        after.tree later rest ∧
      (kept = [] ∨ options.append = true ∧
        ∃ executable, world.tree.entry? place = some (.file kept executable)) := by
  obtain ⟨noted, same, ran⟩ := of_reactAll ran
  rw [← same] at fresh ⊢
  obtain ⟨later, rest, middle, rfl, reacts, opening⟩ := of_reactEach_cons ran
  -- The file of the map is opened first, and what the others open then leaves it aside.
  obtain ⟨place, kept, isOpen, aside, home, keeps⟩ :=
    topics_opened paths given whole reacts
  obtain ⟨grows, texts⟩ := texts_of_opening fresh home opening
  have collects := (collects_nothing format { options }).step .opened noted
  rw [reacts] at collects
  exact ⟨place, kept, later, rest, rfl, ⟨⟨_, collects⟩, isOpen, aside.grows grows, texts⟩, keeps⟩

/-- At the end of the run the map is written behind what was kept of the file. -/
theorem Awaits.closed {types : List DetectedType} {found : List DetectedTopic}
    (awaits : Awaits file home notices paths done world.tree first others)
    (told : .closed types found ∈ notices) (fresh : file.kept = [] ∨ file.append = true)
    (ran : reactAll (.closed types found) (first :: others, world) = (.ok (), last, after)) :
    ∃ topics : TopicMap, topics.IsOrdered ∧
      (∀ topic, topics.lookup topic = Notice.lastTypeName? done topic) ∧
      after.tree.SetsAside file.path paths file.place
        (file.kept ++ Utf8.encode (Target.ended (topics.print file.format))) := by
  obtain ⟨noted, same, ran⟩ := of_reactAll ran
  obtain ⟨later, rest, middle, rfl, reacts, closing⟩ := of_reactEach_cons ran
  obtain ⟨topics, collects⟩ := awaits.collects
  rw [← same] at awaits
  -- The map goes to the end of the file, which is what was kept of it.
  have wrote := topics_closed collects.kind awaits.isOpen reacts
  have written : FileTree.GrowsAt [file.path] noted.tree middle.tree := by
    rw [wrote]
    have grows := (noted.tree.write_grows ⟨file.place, 0, file.append⟩
      (Utf8.encode (Target.ended (topics.print file.format)))).1
    exact .of_written grows (List.mem_singleton_self _) (grows.locate awaits.aside.leads)
  -- The others only release their files then.
  have texts : ∀ other ∈ others, other.IsText home notices paths middle.tree :=
    fun other member => (awaits.texts other member).grows written
  obtain ⟨grows, -⟩ := texts_of_reactEach told (by simp) texts closing
  refine ⟨topics, collects.ordered, collects.last, SetsAside.grows ?_ grows⟩
  rw [wrote]
  exact awaits.aside.write (Target.encode_ended_ne_nil _) fresh

/-- Detection after detection the receivers wait on, until they are told of the end. -/
theorem Awaits.attended {previous closed : Exchange} {detections : List Exchange}
    (awaits : Awaits file home notices paths done previous.after first others)
    (calm : (previous :: detections ++ [closed]).IsChain fun earlier next =>
      Avoids file.path paths earlier.after next.before)
    (detects : ∀ exchange ∈ detections, exchange.notice.IsDetection)
    (told : ∀ exchange ∈ detections, exchange.notice ∈ notices)
    (takes : Receiver.Takes reactAll (first :: others) (detections ++ [closed]) last) :
    ∃ later rest world after,
      Awaits file home notices paths (done ++ detections.map Exchange.notice) world.tree later
        rest ∧
      reactAll closed.notice (later :: rest, world) = (.ok (), last, after) ∧
      closed.after = after.tree := by
  -- The detections that the receivers were told of move to those that are done.
  induction detections generalizing previous done first others with
  | nil =>
    obtain ⟨world, middle, after, ran, before, later, rfl⟩ := takes
    have apart := (List.isChain_cons_cons.mp calm).1
    rw [before] at apart
    exact ⟨first, others, world, after, by simpa using awaits.avoids apart, ran, later⟩
  | cons exchange more ih =>
    obtain ⟨world, middle, after, ran, before, later, onward⟩ := takes
    obtain ⟨apart, calm⟩ := List.isChain_cons_cons.mp calm
    rw [before] at apart
    obtain ⟨next, rest, rfl, waits⟩ := (awaits.avoids apart).detected
      (detects exchange (by simp)) (told exchange (by simp)) ran
    rw [← later] at waits
    obtain ⟨last, rest, world, after, waits, ended, same⟩ := ih waits calm
      (fun other member => detects other (.tail _ member))
      (fun other member => told other (.tail _ member)) onward
    exact ⟨last, rest, world, after, by simpa [List.append_assoc] using waits, ended, same⟩

end Awaiting

/-- After a whole run the file of a map of topics, which was opened first, holds the map of all
topics that were detected, each with the type of its last detection, behind what it held before if
that was to be kept: provided that nothing is lost there, that no path of interface text leads
there, and that others avoid these files between the exchanges. -/
theorem map_of_attends {format : MapFormat} {path : Text} {options : OutputOptions}
    {others last : List Emitter} {start after : FileTree} {opened closed : Exchange}
    {detections : List Exchange} (given : options.path = some path)
    (whole : options.split = false)
    (attends : Receiver.Attends reactAll (⟨.topics format [], { options }⟩ :: others) start opened
      detections closed last after)
    (fresh : ∀ other ∈ others, other.IsFreshText start.home
      ((opened :: detections ++ [closed]).map Exchange.notice) paths)
    (calm : (opened :: detections ++ [closed]).IsChain fun earlier next =>
      Avoids path paths earlier.after next.before)
    (lossless : ∀ place, after.find path ≠ .ok (place, .void))
    (apart : ∀ other ∈ paths, after.locate true other ≠ after.locate true path) :
    ∃ (topics : TopicMap) (kept : Bytes), topics.IsOrdered ∧
      (∀ topic, topics.lookup topic =
        Notice.lastTypeName? ((opened :: detections ++ [closed]).map Exchange.notice) topic) ∧
      after.read path = .ok (kept ++ Utf8.encode (Target.ended (topics.print format))) ∧
      (kept = [] ∨ options.append = true ∧ ∃ place executable,
        after.locate true path = .ok (.present place) ∧
        start.entry? place = some (.file kept executable)) := by
  generalize noticed : (opened :: detections ++ [closed]).map Exchange.notice = notices at fresh ⊢
  have told {exchange : Exchange} (member : exchange ∈ opened :: detections ++ [closed]) :
      exchange.notice ∈ notices := noticed ▸ List.mem_map_of_mem member
  obtain ⟨opens, starts, detects, ⟨types, found, closes⟩, ends, takes⟩ := attends
  obtain ⟨world, middle, begun, ran, before, later, onward⟩ := takes
  rw [opens] at ran
  obtain rfl : start = world.tree := starts.symm.trans before
  -- The file is opened before the first detection, and written when the receivers are told of the
  -- end.
  obtain ⟨place, kept, first, rest, rfl, awaits, keeps⟩ := awaits_of_opened given whole fresh ran
  rw [← later] at awaits
  obtain ⟨first, rest, noted, done, waits, ended, same⟩ := awaits.attended calm detects
    (fun exchange member => told (by simp [member])) onward
  rw [closes] at ended
  have toldEnd : .closed types found ∈ notices := closes ▸ told (by simp)
  obtain ⟨topics, ordered, lasts, aside⟩ :=
    waits.closed toldEnd (keeps.imp_right And.left) ended
  obtain rfl : after = done.tree := ends.symm.trans same
  refine ⟨topics, kept, ordered, fun topic => ?_, aside.read lossless apart,
    keeps.imp_right fun ⟨appends, executable, found⟩ =>
      ⟨appends, place, executable, aside.leads, found⟩⟩
  -- The end is no detection.
  rw [lasts, ← noticed, List.map_append, List.map_cons, opens, List.map_singleton, closes,
    Notice.lastTypeName?_concat]
  simp [Notice.topic?]

end Emitter
end IdlScout
