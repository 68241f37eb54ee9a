import IdlScout.Json.Token

/-! Flat records written in JSON: a machine reads their tokens one by one, and stops at the first
that cannot belong to a record of the wanted shape. -/

namespace IdlScout
namespace Json

/-- The shapes a field of a record can have. -/
inductive Kind where
  | text
  | texts
  | flag
  deriving Repr, DecidableEq

/-- A field's content. -/
inductive Content where
  | text (value : Text)
  | texts (values : List Text)
  | flag (value : Bool)
  deriving Repr, DecidableEq

/-- A field that a record can have. -/
structure Field where
  name : Text
  kind : Kind
  required : Bool
  deriving Repr, DecidableEq

/-- The character that the two halves of a surrogate pair write together. -/
def StringUnit.pair (high low : Nat) : Char :=
  Char.ofNat (0x10000 + (high - 0xD800) * 0x400 + (low - 0xDC00))

/-- The text that units write; a surrogate that stands alone is malformed, and what ended the
string early is reported after the units before it. -/
def unitsText (fault : Option Fault) : List StringUnit → Except Fault Text
  | [] => match fault with
    | some fault => .error fault
    | none => .ok []
  | .char c :: rest => (unitsText fault rest).map (c :: ·)
  -- The high half comes first, and the low half must follow at once.
  | .surrogate high :: .surrogate low :: rest =>
    if high ≤ 0xDBFF && 0xDC00 ≤ low then
      (unitsText fault rest).map (StringUnit.pair high low :: ·)
    else .error .malformed
  | .surrogate high :: [] =>
    -- A high half at the end still waits for its other half when the text breaks off.
    if high ≤ 0xDBFF then .error (fault.getD .malformed) else .error .malformed
  | .surrogate _ :: .char _ :: _ => .error .malformed

/-- A token that starts a value of another shape. -/
def unexpected : Token → Fault
  | .string units fault => match unitsText fault units with
    | .ok _ => .wrongShape
    | .error fault => fault
  | .word _ fault => fault.getD .wrongShape
  -- A number past all finite ones cannot be read, and so has no shape to be wrong.
  | .number (.complete tooLarge) => if tooLarge then .malformed else .wrongShape
  | .number (.broken atEnd) => if atEnd then .endedEarly else .malformed
  -- An opening bracket alone shows that the shape is another; the rest is not read.
  | .openList | .openObject => .wrongShape
  | .closeList | .closeObject | .comma | .colon | .stray => .malformed

/-- What encloses a value that is passed over. -/
inductive Frame where
  | list
  | object
  deriving Repr, DecidableEq

/-- What can follow inside a value that is passed over. -/
inductive Skim where
  | value
  | opened
  | key
  | colon
  | after
  deriving Repr, DecidableEq

/-- A value has been passed over inside these frames; without frames, that is all of it. -/
def Skim.passed (frames : List Frame) : Option (Skim × List Frame) :=
  if frames.isEmpty then none else some (.after, frames)

/-- One token of a value that is passed over; the result is empty when the value is complete. -/
def Skim.valueStep (frames : List Frame) : Token → Except Fault (Option (Skim × List Frame))
  | .string _ none | .word _ none | .number (.complete _) => .ok (passed frames)
  | .string _ (some fault) | .word _ (some fault) => .error fault
  | .openList => .ok (some (.opened, .list :: frames))
  | .openObject => .ok (some (.opened, .object :: frames))
  | _ => .error .malformed

/-- A key of a value that is passed over. -/
def Skim.keyStep (frames : List Frame) : Token → Except Fault (Option (Skim × List Frame))
  | .string _ none => .ok (some (.colon, frames))
  | .string _ (some fault) => .error fault
  | _ => .error .malformed

/-- One token anywhere inside a value that is passed over. -/
def Skim.step : Skim → List Frame → Token → Except Fault (Option (Skim × List Frame))
  | .value, frames, token => valueStep frames token
  -- Only what was opened last can be closed, and only a value or its end follows an opening.
  | .opened, .list :: frames, .closeList => .ok (passed frames)
  | .opened, .object :: frames, .closeObject => .ok (passed frames)
  | .opened, .object :: frames, token => keyStep (.object :: frames) token
  | .opened, frames, token => valueStep frames token
  | .key, frames, token => keyStep frames token
  | .colon, frames, .colon => .ok (some (.value, frames))
  | .colon, _, _ => .error .malformed
  -- After a comma a value is due in a list, and a key in an object; no closing bracket may follow.
  | .after, .list :: frames, .comma => .ok (some (.value, .list :: frames))
  | .after, .object :: frames, .comma => .ok (some (.key, .object :: frames))
  | .after, .list :: frames, .closeList => .ok (passed frames)
  | .after, .object :: frames, .closeObject => .ok (passed frames)
  | .after, _, _ => .error .malformed

/-- Where the machine stands in a list of texts. -/
inductive ListPlace where
  | opened
  | after
  | comma
  deriving Repr, DecidableEq

/-- Where the machine stands in a record. -/
inductive Place where
  | start
  | opened
  | comma
  | colon (field : Option Field)
  | value (field : Option Field)
  | texts (field : Field) (place : ListPlace) (sofar : List Text)
  | skim (skim : Skim) (frames : List Frame)
  | after
  | finished
  deriving Repr, DecidableEq

/-- A record is written as an object, or as the list of its contents in the order of its fields. -/
inductive Form where
  | object
  | sequence (pending : List Field)
  deriving Repr, DecidableEq

/-- The machine's state: the form of the record, the contents found, and the place in it. -/
structure Reading where
  form : Form
  found : List (Text × Content)
  place : Place
  deriving Repr, DecidableEq

namespace Reading

/-- A content found takes its place. -/
def store (reading : Reading) (field : Field) (content : Content) : Reading :=
  { form := match reading.form with
      | .object => .object
      -- A list of contents names no fields, so each one uses up the next field.
      | .sequence pending => .sequence (pending.drop 1)
    found := reading.found ++ [(field.name, content)]
    place := .after }

/-- One text of a list. -/
def element (reading : Reading) (field : Field) (sofar : List Text) :
    Token → Except Fault Reading
  | .string units fault => do
    let text ← unitsText fault units
    return { reading with place := .texts field .after (sofar ++ [text]) }
  | token => .error (unexpected token)

/-- The first token of a field's value; a value of an unknown field is passed over. -/
def value (reading : Reading) : Option Field → Token → Except Fault Reading
  -- Values of unknown fields are only checked to be JSON.
  | none, token => do
    match ← Skim.valueStep [] token with
    | none => return { reading with place := .after }
    | some (skim, frames) => return { reading with place := .skim skim frames }
  | some field, token =>
    match field.kind, token with
    | .text, .string units fault => do
      let text ← unitsText fault units
      return reading.store field (.text text)
    | .flag, .word .true none => .ok (reading.store field (.flag true))
    | .flag, .word .false none => .ok (reading.store field (.flag false))
    | .texts, .openList => .ok { reading with place := .texts field .opened [] }
    | _, _ => .error (unexpected token)

/-- A key of an object; a field comes once only. -/
def key (fields : List Field) (reading : Reading) : Token → Except Fault Reading
  | .string units fault => do
    let name ← unitsText fault units
    match fields.find? (·.name == name) with
    | some field =>
      -- An unknown key may come again, a known one may not.
      if reading.found.any (·.1 == name) then throw .wrongShape
      return { reading with place := .colon (some field) }
    | none => return { reading with place := .colon none }
  | _ => .error .malformed

/-- An object is complete when no required field is missing. -/
def close (fields : List Field) (reading : Reading) : Except Fault Reading :=
  -- A field that is not required may be missing from an object.
  if fields.all fun field => !field.required || reading.found.any (·.1 == field.name) then
    .ok { reading with place := .finished }
  else .error .wrongShape

/-- One token of a list of texts. -/
def textsStep (reading : Reading) (field : Field) (sofar : List Text) :
    ListPlace → Token → Except Fault Reading
  | .opened, .closeList => .ok (reading.store field (.texts sofar))
  | .opened, token => reading.element field sofar token
  | .after, .closeList => .ok (reading.store field (.texts sofar))
  | .after, .comma => .ok { reading with place := .texts field .comma sofar }
  | .after, _ => .error .malformed
  | .comma, .closeList => .error .malformed
  | .comma, token => reading.element field sofar token

/-- One token of a record written as an object, between its fields. -/
def objectStep (fields : List Field) (reading : Reading) : Place → Token → Except Fault Reading
  | .opened, .closeObject => reading.close fields
  | .opened, token => reading.key fields token
  | .comma, token => reading.key fields token
  | .after, .comma => .ok { reading with place := .comma }
  | .after, .closeObject => reading.close fields
  | _, _ => .error .malformed

/-- One token of a record written as a list, between its contents. -/
def sequenceStep (reading : Reading) : List Field → Place → Token → Except Fault Reading
  -- In a list of contents no field may be missing, required or not.
  | _ :: _, .opened, .closeList => .error .wrongShape
  | field :: _, .opened, token => reading.value (some field) token
  | _, .comma, .closeList => .error .malformed
  | field :: _, .comma, token => reading.value (some field) token
  | _ :: _, .after, .comma => .ok { reading with place := .comma }
  | _ :: _, .after, .closeList => .error .wrongShape
  | [], .after, .closeList => .ok { reading with place := .finished }
  | _, _, _ => .error .malformed

/-- One token of a record. -/
def step (fields : List Field) (reading : Reading) (token : Token) : Except Fault Reading :=
  match reading.place with
  | .start =>
    match token with
    | .openObject => .ok { reading with form := .object, place := .opened }
    | .openList => .ok { reading with form := .sequence fields, place := .opened }
    | _ => .error (unexpected token)
  | .colon field =>
    match token with
    | .colon => .ok { reading with place := .value field }
    | _ => .error .malformed
  | .value field => reading.value field token
  | .texts field place sofar => reading.textsStep field sofar place token
  | .skim skim frames => do
    match ← skim.step frames token with
    | none => return { reading with place := .after }
    | some (skim, frames) => return { reading with place := .skim skim frames }
  -- Nothing but blanks follows a record.
  | .finished => .error .malformed
  | place =>
    match reading.form with
    | .object => reading.objectStep fields place token
    | .sequence pending => reading.sequenceStep pending place token

end Reading

/-- The contents found in a record. -/
abbrev Contents := List (Text × Content)

/-- The contents of the record that a text holds. -/
def readRecord (fields : List Field) (text : Text) : Except Fault Contents := do
  -- Tokens that run out before the record is finished mean that the text ended early.
  let reading ← (tokens text).foldlM (Reading.step fields) ⟨.object, [], .start⟩
  if reading.place = .finished then return reading.found else throw .endedEarly

/-- The text of a field, empty if it has none. -/
def Contents.text (contents : Contents) (name : Text) : Text :=
  match contents.lookup name with
  | some (.text value) => value
  | _ => []

end Json
end IdlScout
