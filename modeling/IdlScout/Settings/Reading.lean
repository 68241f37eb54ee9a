import IdlScout.Files.Tree
import IdlScout.Settings.Datum
import IdlScout.Settings.Validity
import IdlScout.Toml.Document

/-! Settings read from values, and from a file that holds a TOML document. -/

namespace IdlScout
namespace Settings

/-- The names of all settings, in their order. -/
def settingNames : List Text :=
  ["domains".toList, "inputs".toList, "parse".toList, "directories".toList, "filter".toList,
    "raw_filter".toList, "mangle".toList, "verbosity".toList, "compatibility_mode".toList,
    "request_reply_mapping".toList, "swap_outputs".toList, "wait_timeout_ms".toList,
    "executable".toList]

/-- Named values: those of a table, or those of a list in the order of all settings. -/
def namedValues? : Datum → Option (List (Text × Datum))
  | .table fields => some fields
  | .list items =>
    -- Later settings may be missing from a list, but nothing may follow the last.
    if items.length ≤ settingNames.length then some (settingNames.zip items) else none
  | _ => none

/-- A setting is read from its value, and has its usual value without one. -/
def setting? {α : Type} (fields : List (Text × Datum)) (name : String) (usual : α)
    (read? : Datum → Option α) : Option α :=
  match fields.lookup name.toList with
  | some datum => read? datum
  | none => some usual

/-- A choice is its name, or a table of its name alone with nothing to say about it. -/
def choice? {α : Type} (isUnit : Datum → Bool) (ofName? : Text → Option α) : Datum → Option α
  | .text name => ofName? name
  -- A table may name a choice, as long as the value under the name is empty.
  | .table [(name, value)] => if isUnit value then ofName? name else none
  | _ => none

/-- Settings from named values of any order; what is no setting is passed over. What a value that
says nothing looks like depends on its format. -/
def ofDatum? (isUnit : Datum → Bool) (datum : Datum) : Option Settings := do
  let fields ← namedValues? datum
  return {
    domains := ← setting? fields "domains" [] Datum.texts?
    inputPaths := ← setting? fields "inputs" [] Datum.paths?
    captured := ← setting? fields "parse" [] Datum.texts?
    directories := ← setting? fields "directories" [] Datum.texts?
    filter := ← setting? fields "filter" none (Datum.optional? Datum.text?)
    rawFilter := ← setting? fields "raw_filter" none (Datum.optional? Datum.text?)
    mangle := ← setting? fields "mangle" false Datum.flag?
    verbosity := ← setting? fields "verbosity" 0 (Datum.natural? Numeral.max8)
    compatibility := ← setting? fields "compatibility_mode" none
      (Datum.optional? (choice? isUnit Compatibility.ofName?))
    replyNaming := ← setting? fields "request_reply_mapping" none
      (Datum.optional? (choice? isUnit ReplyNaming.ofName?))
    swapOutputs := ← setting? fields "swap_outputs" true Datum.flag?
    waitTimeout := ← setting? fields "wait_timeout_ms" none
      (Datum.optional? (Datum.natural? Numeral.max64))
    executablePath := ← setting? fields "executable" none (Datum.optional? Datum.path?) }

end Settings

/-- Why settings cannot be loaded from a file. -/
inductive LoadFault where
  | unreadable (fault : PathFault)
  | notText
  | malformed
  | invalid (fault : SettingsFault)
  deriving Repr, DecidableEq

namespace Settings

/-- A value of a document that says nothing. -/
def isEmptyValue : Datum → Bool
  | .list [] | .table [] => true
  | _ => false

/-- Settings from the text of a document. -/
def ofDocument? (text : Text) : Option Settings :=
  Toml.read? text >>= ofDatum? isEmptyValue

/-- Settings that a file holds, if they can be used. -/
def load (tree : FileTree) (path : Text) : Except LoadFault Settings :=
  match tree.read path with
  | .error fault => .error (.unreadable fault)
  | .ok content =>
    match Utf8.decode? content with
    -- Bytes that are no text are told apart from text that is no document.
    | none => .error .notText
    | some text =>
      match ofDocument? text with
      | none => .error .malformed
      | some settings =>
        match settings.fault? with
        | some fault => .error (.invalid fault)
        | none => .ok settings

end Settings
end IdlScout
