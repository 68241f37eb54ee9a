import IdlScout.Detection.Topic
import IdlScout.Emission.Target
import IdlScout.Idl.Cleanup
import IdlScout.Text.NameMap
import IdlScout.Yaml.Mapping

/-! Receivers of detections: interface text, plain lists, and a map of topics to types. -/

namespace IdlScout

/-- What a receiver of detections is told. -/
inductive Notice where
  | opened
  | type (detected : DetectedType)
  | topic (detected : DetectedTopic)
  | closed (types : List DetectedType) (topics : List DetectedTopic)
  deriving Repr, DecidableEq

/-- How a map of topics is written. -/
inductive MapFormat where
  | json (spacing : Json.Spacing)
  | yaml
  deriving Repr, DecidableEq

/-- Topics with the names of their types, in the order of the topics' names. -/
abbrev TopicMap := NameMap Text

namespace TopicMap

/-- The map in a format. -/
def print (topics : TopicMap) : MapFormat → Text
  | .yaml => Yaml.printMapping topics
  | .json spacing => Json.printRecord spacing (topics.map fun (name, type) => (name, .text type))

end TopicMap

/-- What a receiver makes of detections. -/
inductive EmitterKind where
  /-- The interface text of types, cleaned up where it was not understood if so wished. -/
  | idl (layout : Layout) (clean : Bool)
  /-- Names of types and topics, or of topics alone. -/
  | list (topicsOnly : Bool)
  /-- A map of topics that is written at the end. -/
  | topics (format : MapFormat) (sofar : TopicMap)
  deriving Repr, DecidableEq

/-- A receiver of detections and its output. -/
structure Emitter where
  kind : EmitterKind
  target : Target
  deriving Repr, DecidableEq

namespace Emitter

/-- A step of the output. -/
def onTarget {α : Type} (step : Act Target OutputFault α) : Act Emitter OutputFault α :=
  fun (emitter, world) =>
    let (result, target, world) := step (emitter.target, world)
    (result, { emitter with target }, world)

/-- The layout of interface text: a split output includes the files of other types. -/
def layoutFor (layout : Layout) (options : OutputOptions) : Layout :=
  { layout with includes := options.split, flat := options.flat }

/-- The interface text of a type. -/
def typeText (layout : Layout) (clean : Bool) (options : OutputOptions)
    (detected : DetectedType) : Text :=
  let text := detected.print (layoutFor layout options)
  -- Text that was understood is printed anew and needs no clean-up.
  if clean && !detected.isParsed then cleanUp text else text

/-- The file of a type in a split output. -/
def fileName (options : OutputOptions) (detected : DetectedType) : Text :=
  detected.path options.flat ++ ".idl".toList

/-- A type is written to its own file, or with the others. -/
def writeType (layout : Layout) (clean : Bool) (detected : DetectedType) :
    Act Target OutputFault Unit := do
  let options := (← Act.own).options
  let text := typeText layout clean options detected
  if options.split then
    let _ ← Target.writeFile (fileName options detected) text
  else
    Target.write text

/-- A topic in interface text is a comment. -/
def topicComment (detected : DetectedTopic) : Text :=
  "// ".toList ++ detected.type.fullName ++ " @ \"".toList ++ detected.name ++ "\"".toList

/-- A topic in a list. -/
def topicEntry (detected : DetectedTopic) : Text :=
  detected.type.fullName ++ ['@'] ++ detected.name

/-- What a receiver does on a notice. -/
def react (notice : Notice) : Act Emitter OutputFault Unit := do
  match (← Act.own).kind, notice with
  | _, .opened => onTarget Target.start
  | .idl layout clean, .type detected => onTarget (writeType layout clean detected)
  | .idl _ _, .topic detected => onTarget (Target.write (topicComment detected))
  | .list topicsOnly, .type detected =>
    if topicsOnly then pure () else onTarget (Target.write detected.fullName)
  | .list _, .topic detected => onTarget (Target.write (topicEntry detected))
  -- A map of topics has no place for types alone.
  | .topics _ _, .type _ => pure ()
  | .topics format sofar, .topic detected =>
    Act.change fun emitter =>
      { emitter with
        kind := .topics format (NameMap.insert detected.name detected.type.fullName sofar) }
  -- Only at the end is the map complete.
  | .topics format sofar, .closed _ _ => do
    onTarget (Target.write (sofar.print format))
    onTarget Target.finish
  | _, .closed _ _ => onTarget Target.finish

/-- Receivers react one after the other, up to the first that fails. -/
def reactEach (notice : Notice) :
    List Emitter → World → Except OutputFault Unit × List Emitter × World
  | [], world => (.ok (), [], world)
  | emitter :: rest, world =>
    match react notice (emitter, world) with
    -- The receivers after the one that fails are not told.
    | (.error fault, emitter, world) => (.error fault, emitter :: rest, world)
    | (.ok (), emitter, world) =>
      let (result, rest, world) := reactEach notice rest world
      (result, emitter :: rest, world)

/-- The event that tells of a detection. -/
def announce (notice : Notice) : Act (List Emitter) OutputFault Unit :=
  match notice with
  | .type detected =>
    Act.note .info .output ("detected type: ".toList ++ detected.fullName)
  | .topic detected => Act.note .info .output ("detected topic: ".toList ++ detected.name)
  | _ => pure ()

/-- Several receivers together: a detection is logged, then each reacts. -/
def reactAll (notice : Notice) : Act (List Emitter) OutputFault Unit := do
  announce notice
  fun (emitters, world) => reactEach notice emitters world

end Emitter
end IdlScout
