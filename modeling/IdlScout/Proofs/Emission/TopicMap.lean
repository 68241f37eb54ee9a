import IdlScout.Proofs.Act
import IdlScout.Proofs.Emission.Notices
import IdlScout.Proofs.Json.TextMap
import IdlScout.Proofs.Text.ByteOrder

/-! The map of topics: whatever order they were detected in, it gives each topic the type of its
last detection, and what is printed depends on nothing else. -/

namespace IdlScout

namespace Notice

/-- The name of the type that a topic had when it was last detected. -/
def lastTypeName? (notices : List Notice) (topic : Text) : Option Text :=
  (lastTopic? notices topic).map (·.type.fullName)

/-- A later detection of a topic takes the place of an earlier one. -/
theorem lastTypeName?_concat (notices : List Notice) (notice : Notice) (topic : Text) :
    lastTypeName? (notices ++ [notice]) topic =
      ((notice.topic?.filter (·.name == topic)).map (·.type.fullName)).or
        (lastTypeName? notices topic) := by
  rw [lastTypeName?, lastTopic?_concat, Option.map_or]
  rfl

end Notice

namespace Emitter

/-- What a receiver would print of the topics so far. -/
def rendered? (emitter : Emitter) : Option Text :=
  match emitter.kind with
  | .topics format sofar => some (sofar.print format)
  | _ => none

/-- A receiver that has collected the topics among some notices: its map gives each topic the type
of its last detection, and nothing else. -/
structure Collects (format : MapFormat) (notices : List Notice) (emitter : Emitter)
    (topics : TopicMap) : Prop where
  kind : emitter.kind = .topics format topics
  ordered : topics.IsOrdered
  last : ∀ topic, topics.lookup topic = Notice.lastTypeName? notices topic

/-- At first no topic has been collected. -/
theorem collects_nothing (format : MapFormat) (target : Target) :
    Collects format [] ⟨.topics format [], target⟩ [] :=
  ⟨rfl, List.Pairwise.nil, fun _ => rfl⟩

/-- A step of the output makes no other receiver. -/
theorem onTarget_keeps {α : Type} (step : Act Target OutputFault α) :
    (onTarget step).Keeps Emitter.kind := fun _ => rfl

/-- The map after a notice: only the detection of a topic changes it. -/
def collect (topics : TopicMap) : Notice → TopicMap
  | .topic detected => NameMap.insert detected.name detected.type.fullName topics
  | _ => topics

/-- Whatever comes of a notice, the map is the one after it. -/
theorem kind_react (format : MapFormat) (topics : TopicMap) (target : Target) (notice : Notice)
    (world : World) :
    (react notice (⟨.topics format topics, target⟩, world)).2.1.kind =
      .topics format (collect topics notice) := by
  unfold react
  rw [Act.bind_of_ok (Act.own_apply _)]
  cases notice with
  | opened => exact onTarget_keeps Target.start _
  | type => rfl
  | topic => rfl
  | closed =>
    -- The map is written and the file released, and both are steps of the output.
    exact (onTarget_keeps _).bind (fun _ => onTarget_keeps Target.finish) _

/-- A notice that follows others is collected too. -/
theorem Collects.step {format : MapFormat} {done : List Notice} {emitter : Emitter}
    {topics : TopicMap} (collects : Collects format done emitter topics) (notice : Notice)
    (world : World) :
    Collects format (done ++ [notice]) (react notice (emitter, world)).2.1
      (collect topics notice) := by
  obtain ⟨kind, target⟩ := emitter
  obtain ⟨rfl, ordered, last⟩ := collects
  refine ⟨kind_react format topics target notice world, ?_, fun topic => ?_⟩
  · -- Only a topic adds an entry, and adding keeps the order.
    cases notice with
    | topic detected => exact ordered.insert _ _
    | opened | type | closed => exact ordered
  · rw [Notice.lastTypeName?_concat, ← last]
    cases notice with
    | topic detected =>
      -- A topic detected before has a new type from now on.
      rw [collect, NameMap.lookup_insert]
      by_cases same : detected.name = topic
      · simp [Notice.topic?, same, Option.filter]
      · simp [Notice.topic?, same, Ne.symm same, Option.filter]
    | opened | type | closed => simp [collect, Notice.topic?]

/-- All notices are collected, whatever is answered to them. -/
theorem Collects.reactions {format : MapFormat} {done : List Notice} {emitter : Emitter}
    {topics : TopicMap} (collects : Collects format done emitter topics) (notices : List Notice)
    (world : World) :
    ∃ topics, Collects format (done ++ notices) (reactions notices (emitter, world)).2.1 topics := by
  -- The notices that were answered so far move from the rest to those that are done.
  induction notices generalizing done emitter topics world with
  | nil => exact ⟨topics, by simpa [Emitter.reactions] using collects⟩
  | cons notice rest ih =>
    have later := ih (collects.step notice world) (react notice (emitter, world)).2.2
    rwa [List.append_assoc, List.singleton_append] at later

/-- Maps of the same last detections are one map. -/
theorem Collects.unique {format : MapFormat} {notices others : List Notice}
    {emitter other : Emitter} {topics otherTopics : TopicMap}
    (collects : Collects format notices emitter topics)
    (otherwise : Collects format others other otherTopics)
    (same : ∀ topic, Notice.lastTypeName? others topic = Notice.lastTypeName? notices topic) :
    otherTopics = topics := by
  refine otherwise.ordered.ext collects.ordered fun topic => ?_
  rw [otherwise.last, same, collects.last]

/-- What is printed of a map of topics is told by the last detection of each topic alone, in every
format; a reader of JSON finds in it the type of each topic's last detection and nothing else, in
the order of the topics' bytes. -/
theorem rendered_of_last_topics (format : MapFormat) (notices : List Notice) (target : Target)
    (world : World) :
    ∃ (topics : TopicMap) (text : Text),
      (reactions notices (⟨.topics format [], target⟩, world)).2.1.rendered? = some text ∧
      (∀ topic, topics.lookup topic = Notice.lastTypeName? notices topic) ∧
      (topics.names.map Utf8.encode).Pairwise (· < ·) ∧
      (∀ spacing, format = .json spacing → Json.readTexts? text = some topics) ∧
      ∀ (others : List Notice) (otherTarget : Target) (otherWorld : World),
        (∀ topic, Notice.lastTypeName? others topic = Notice.lastTypeName? notices topic) →
        (reactions others (⟨.topics format [], otherTarget⟩, otherWorld)).2.1.rendered? =
          some text := by
  obtain ⟨topics, collects⟩ := (collects_nothing format target).reactions notices world
  refine ⟨topics, topics.print format, ?_, collects.last, ?_, ?_, ?_⟩
  · rw [rendered?, collects.kind]
  · -- The order of names is that of their bytes.
    exact List.pairwise_map.mpr (collects.ordered.imp fun less => Utf8.encode_lt_of_lt less)
  · rintro spacing rfl
    exact Json.readTexts?_printRecord spacing topics
  · intro others otherTarget otherWorld same
    obtain ⟨otherTopics, otherwise⟩ :=
      (collects_nothing format otherTarget).reactions others otherWorld
    rw [rendered?, otherwise.kind, collects.unique otherwise same]

/-- A topic whose type changed, and whose name needs an escape, is printed alike in another order of
the detections, and is read back with its last type. -/
theorem rendered_of_last_topics_in_two_orders :
    let topic (name type : Char) : Notice := .topic ⟨[name], ⟨[type], [], none⟩⟩
    let notices := [topic '"' 'A', topic 'é' 'B', topic '"' 'C']
    let others := [topic '"' 'C', topic 'é' 'B']
    let rendering (notices : List Notice) :=
      (reactions notices (⟨.topics (.json .compact) [], { options := {} }⟩,
        { tree := ⟨[], []⟩ })).2.1.rendered?
    ∃ topics text, rendering notices = some text ∧ rendering others = some text ∧
      Json.readTexts? text = some topics ∧ topics.lookup ['"'] = some ['C'] := by
  intro topic notices others rendering
  obtain ⟨topics, text, printed, last, -, reads, same⟩ :=
    rendered_of_last_topics (.json .compact) notices { options := {} } { tree := ⟨[], []⟩ }
  -- Both lists of detections end with the same type for every name.
  have alike (name : Text) :
      Notice.lastTypeName? others name = Notice.lastTypeName? notices name := by
    by_cases quote : ['"'] = name
    · rw [← quote]
      decide
    by_cases accent : ['é'] = name
    · rw [← accent]
      decide
    · -- No other topic was detected at all.
      simp [Notice.lastTypeName?, Notice.lastTopic?, Notice.topic?, others, notices, topic, quote,
        accent]
  refine ⟨topics, text, printed, same others _ _ alike, reads _ rfl, ?_⟩
  rw [last]
  decide

end Emitter
end IdlScout
