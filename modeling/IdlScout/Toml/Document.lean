import IdlScout.Toml.Number
import IdlScout.Toml.Table

/-! TOML documents: values, lines and headers, and the table that they write. -/

namespace IdlScout
namespace Toml

/-- A number or a date. -/
def scalar : Reader Datum := do
  let text ← remaining
  if startsMoment text then
    moment
    return .other
  -- A fraction is tried first, as a whole number would stop at its point.
  match fractional text with
  | some ((), rest) =>
    set rest
    return .other
  | none => return .integer (← integer)

mutual

/-- A value. Each call takes a character or reads on inside a list that was opened by one, so the
length of the text bounds the calls; the depth of nesting is limited besides. -/
def value (depth : Nat) : Nat → Reader Datum
  | 0 => refuse
  | fuel + 1 => do
    match ← peek with
    | some '"' | some '\'' => return .text (← anyString)
    | some '[' => do
      expect '['
      if depth + 1 ≥ depthLimit then refuse
      return .list (← listItems (depth + 1) fuel)
    | some '\x7b' => do
      expect '\x7b'
      if depth + 1 ≥ depthLimit then refuse
      blanks
      if ← accept? ['\x7d'] then return .table []
      let fields ← inlineFields (depth + 1) fuel []
      return .table (Node.toDatum.fieldsToData fields)
    | some 't' => do
      if ← accept? "true".toList then return .flag true else refuse
    | some 'f' => do
      if ← accept? "false".toList then return .flag false else refuse
    | _ => scalar

/-- The items of a list up to its end; a comma may stand after the last. -/
def listItems (depth : Nat) : Nat → Reader (List Datum)
  | 0 => refuse
  | fuel + 1 => do
    gap
    if ← accept? [']'] then return []
    let first ← value depth fuel
    gap
    if ← accept? [','] then return first :: (← listItems depth fuel)
    expect ']'
    return [first]

/-- The fields of a table in braces up to its end; no comma stands after the last. -/
def inlineFields (depth : Nat) : Nat → Fields → Reader Fields
  | 0, _ => refuse
  | fuel + 1, sofar => do
    let path ← key
    expect '='
    blanks
    let datum ← value depth fuel
    blanks
    match path.getLast?, sofar.addValue path.dropLast (path.getLast?.getD []) datum with
    | some _, some fields =>
      if ← accept? [','] then inlineFields depth fuel fields
      else
        expect '\x7d'
        return fields
    | _, _ => refuse

end

/-- A document while it is read: the finished part, and the table that lines are added to, with
its path and whether it is one of a list. -/
structure Draft where
  root : Fields := []
  path : List Text := []
  isListed : Bool := false
  current : Fields := []
  deriving Repr

namespace Draft

/-- The current table is put in its place. -/
def close? (draft : Draft) : Option Fields :=
  match draft.path.getLast? with
  | none => some draft.current
  | some name =>
    Fields.descend false (fun _ fields =>
      if draft.isListed then
        match fields.find? name with
        | some (.tables all) => some (fields.put name (.tables (all ++ [draft.current])))
        | none => some (fields.put name (.tables [draft.current]))
        | _ => none
      else
        match fields.find? name with
        | none => some (fields.put name (.table .stated draft.current))
        | _ => none) .stated draft.path.dropLast draft.root

/-- What stands at a path through tables. -/
def at? : Fields → List Text → Option Node
  | _, [] => none
  | fields, [name] => fields.find? name
  | fields, name :: path =>
    match fields.find? name with
    | some (.table _ inner) => at? inner path
    | some (.tables all) => (all.getLast?).bind fun last => at? last path
    | _ => none

/-- A header of a single table: the table is new, or is known only from longer headers. -/
def openTable? (draft : Draft) (path : List Text) : Option Draft := do
  let root ← draft.close?
  let name ← path.getLast?
  let known := at? root path
  let root ← Fields.descend false (fun _ fields =>
    match fields.find? name with
    | none => some fields
    | some (.table .implied _) => some (fields.erase name)
    | some _ => none) .stated path.dropLast root
  let current := match known with
    | some (.table .implied fields) => fields
    | _ => []
  return ⟨root, path, false, current⟩

/-- A header of a table in a list. -/
def openListed? (draft : Draft) (path : List Text) : Option Draft := do
  let root ← draft.close?
  let name ← path.getLast?
  let root ← Fields.descend false (fun _ fields =>
    match fields.find? name with
    | none => some (fields.put name (.tables []))
    | some (.tables _) => some fields
    | some _ => none) .stated path.dropLast root
  return ⟨root, path, true, []⟩

/-- A line that gives a key a value. -/
def addLine? (draft : Draft) (path : List Text) (datum : Datum) : Option Draft := do
  let name ← path.getLast?
  let current ← draft.current.addValue path.dropLast name datum
  return { draft with current }

end Draft

/-- A step that may be impossible. -/
def orRefuse {α : Type} : Option α → Reader α
  | some found => pure found
  | none => refuse

/-- One line of a document. -/
def line (draft : Draft) : Reader Draft := do
  match ← peek with
  | some '#' => do
    comment
    lineEnd
    return draft
  | some '\n' | some '\r' => do
    if ← newline? then return draft else refuse
  | some '[' => do
    if ← accept? "[[".toList then
      let path ← key
      expect ']'
      expect ']'
      lineTail
      orRefuse (draft.openListed? path)
    else
      expect '['
      let path ← key
      expect ']'
      lineTail
      orRefuse (draft.openTable? path)
  | _ => do
    let path ← key
    expect '='
    blanks
    let datum ← value 0 ((← remaining).length + 1)
    lineTail
    orRefuse (draft.addLine? path datum)

/-- The lines of a document, of which there are at most as many as it has characters. -/
def linesFrom : Nat → Draft → Reader Draft
  | 0, _ => refuse
  | fuel + 1, draft => do
    blanks
    if (← peek).isNone then return draft
    linesFrom fuel (← line draft)

/-- The mark that may stand first in a text. -/
def byteOrderMark : Char := Char.ofNat 0xFEFF

/-- The table that a document writes, if it is well written. -/
def read? (text : Text) : Option Datum := do
  let body := match text with
    | c :: rest => if c = byteOrderMark then rest else text
    | [] => []
  let (draft, _) ← linesFrom (body.length + 1) {} body
  let fields ← draft.close?
  return .table (Node.toDatum.fieldsToData fields)

end Toml
end IdlScout
