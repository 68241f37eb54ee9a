import IdlScout.Idl.Layout
import IdlScout.Json.Printer

/-! Types detected on the bus: a name, the interface text reported for it, and the declaration
read from that text where it is understood. -/

namespace IdlScout

/-- A detected type. -/
structure DetectedType where
  fullName : Text
  idl : Text
  declaration : Option Declaration
  deriving Repr, DecidableEq

/-- Why a detection is refused. -/
inductive DetectionFault where
  /-- The record cannot be read. -/
  | record (fault : Json.Fault)
  /-- The text declares another name than the one reported. -/
  | identity (expected declared : Text)
  deriving Repr, DecidableEq

namespace DetectionFault

/-- The wording of a fault. -/
def message : DetectionFault → Text
  | .record .endedEarly => "Invalid detection record: the text ended early".toList
  | .record .malformed => "Invalid detection record: the text is not JSON".toList
  | .record .wrongShape => "Invalid detection record: the record has another shape".toList
  | .identity expected declared =>
    "Parsed type name '".toList ++ declared ++ "' does not match '".toList ++ expected ++
      "'".toList

end DetectionFault

namespace DetectedType

/-- A type is detected from its name and text. A text that is not understood is kept as it is, and
one that declares another name is refused. -/
def detect (fullName idl : Text) : Except DetectionFault DetectedType :=
  match Declaration.read idl with
  -- What is not understood is no fault: its text is passed on unchanged.
  | .error _ => .ok ⟨fullName, idl, none⟩
  | .ok declaration =>
    -- Only a text that was understood can contradict the reported name.
    if declaration.fullName = fullName then .ok ⟨fullName, idl, some declaration⟩
    else .error (.identity fullName declaration.fullName)

/-- Whether the text was understood. -/
def isParsed (type : DetectedType) : Bool :=
  type.declaration.isSome

/-- The name inside its modules, or the whole name of a text that was not understood. -/
def name (type : DetectedType) : Text :=
  match type.declaration with
  | some declaration => declaration.name
  | none => type.fullName

/-- The modules around the type, outermost first. -/
def modules (type : DetectedType) : List Text :=
  match type.declaration with
  | some declaration => declaration.modules
  | none => []

/-- The member declarations. -/
def members (type : DetectedType) : List Text :=
  match type.declaration with
  | some declaration => declaration.members
  | none => []

/-- The annotations, without the signs before them. -/
def annotations (type : DetectedType) : List Text :=
  match type.declaration with
  | some declaration => declaration.annotations
  | none => []

/-- The scoped types that the members refer to, in member order. -/
def references (type : DetectedType) : List Text :=
  match type.declaration with
  | some declaration => declaration.references
  | none => []

/-- The path of the type's file without extension. -/
def path (type : DetectedType) (flat : Bool) : Text :=
  ScopedName.path type.fullName flat

/-- The interface text printed anew, or as it came where it was not understood. -/
def print (type : DetectedType) (layout : Layout) : Text :=
  match type.declaration with
  | some declaration => declaration.print layout
  | none => type.idl

/-- Types are the same when their names are. -/
def same (a b : DetectedType) : Bool :=
  a.fullName == b.fullName

/-- Types are ordered by name. -/
def order (a b : DetectedType) : Ordering :=
  Text.order a.fullName b.fullName

/-- The fields of a saved type; only the name and the text are needed to detect it again. -/
def fields : List Json.Field :=
  [⟨"fqname".toList, .text, true⟩, ⟨"name".toList, .text, false⟩,
   ⟨"modules".toList, .texts, false⟩, ⟨"members".toList, .texts, false⟩,
   ⟨"annotations".toList, .texts, false⟩, ⟨"parsed".toList, .flag, false⟩,
   ⟨"idl".toList, .text, true⟩]

/-- The record that a type is saved as. -/
def record (type : DetectedType) : Json.Contents :=
  [("fqname".toList, .text type.fullName), ("name".toList, .text type.name),
   ("modules".toList, .texts type.modules), ("members".toList, .texts type.members),
   ("annotations".toList, .texts type.annotations), ("parsed".toList, .flag type.isParsed),
   ("idl".toList, .text type.idl)]

/-- The record as JSON. -/
def toJson (type : DetectedType) : Text :=
  Json.printRecord (.indented 2) type.record

/-- A type is detected again from the name and the text of its record alone. -/
def ofJson (text : Text) : Except DetectionFault DetectedType :=
  match Json.readRecord fields text with
  | .error fault => .error (.record fault)
  -- All other fields are recomputed, so a record cannot disagree with its own text.
  | .ok contents => detect (contents.text "fqname".toList) (contents.text "idl".toList)

end DetectedType
end IdlScout
