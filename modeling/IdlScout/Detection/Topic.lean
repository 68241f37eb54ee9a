import IdlScout.Detection.Type

/-! Topics detected on the bus, each with the type published on it. -/

namespace IdlScout

/-- A topic and its type. -/
structure DetectedTopic where
  name : Text
  type : DetectedType
  deriving Repr, DecidableEq

namespace DetectedTopic

/-- A topic is detected from its name and from the name and text of its type. -/
def detect (name typeName idl : Text) : Except DetectionFault DetectedTopic :=
  (DetectedType.detect typeName idl).map fun type => ⟨name, type⟩

/-- Topics are the same when their names are. -/
def same (a b : DetectedTopic) : Bool :=
  a.name == b.name

/-- Topics are ordered by name. -/
def order (a b : DetectedTopic) : Ordering :=
  Text.order a.name b.name

/-- The fields of a saved topic. -/
def fields : List Json.Field :=
  [⟨"name".toList, .text, true⟩, ⟨"type_name".toList, .text, true⟩, ⟨"idl".toList, .text, true⟩]

/-- The record that a topic is saved as. -/
def record (topic : DetectedTopic) : Json.Contents :=
  [("name".toList, .text topic.name), ("type_name".toList, .text topic.type.fullName),
   ("idl".toList, .text topic.type.idl)]

/-- A topic is detected from its record. -/
def ofJson (text : Text) : Except DetectionFault DetectedTopic :=
  match Json.readRecord fields text with
  | .error fault => .error (.record fault)
  | .ok contents =>
    detect (contents.text "name".toList) (contents.text "type_name".toList)
      (contents.text "idl".toList)

end DetectedTopic
end IdlScout
