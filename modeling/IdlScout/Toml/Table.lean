import IdlScout.Settings.Datum

/-! Tables of a TOML document while it is read: how each came to be decides what may be added to
it. -/

namespace IdlScout
namespace Toml

/-- How a table came to be. -/
inductive Origin where
  /-- It has a header or braces of its own. -/
  | stated
  /-- A longer header goes through it. -/
  | implied
  /-- A key with dots goes through it. -/
  | dotted
  deriving Repr, DecidableEq

/-- What stands under a key. -/
inductive Node where
  | value (datum : Datum)
  | table (origin : Origin) (fields : List (Text × Node))
  | tables (all : List (List (Text × Node)))
  deriving Repr

/-- Keys with what stands under them. -/
abbrev Fields := List (Text × Node)

namespace Fields

/-- What stands under a key. -/
def find? (fields : Fields) (key : Text) : Option Node :=
  fields.lookup key

/-- A key gets something else. -/
def put (fields : Fields) (key : Text) (node : Node) : Fields :=
  fields.filter (·.1 != key) ++ [(key, node)]

/-- The fields without a key. -/
def erase (fields : Fields) (key : Text) : Fields :=
  fields.filter (·.1 != key)

/-- A step at the table that a path of keys leads to; tables missing on the way are made. A path
of dots goes through no stated table, and a list of tables stands for its last. -/
def descend (byDots : Bool) (step : Origin → Fields → Option Fields) (origin : Origin) :
    List Text → Fields → Option Fields
  | [], fields => step origin fields
  | key :: path, fields => do
    match find? fields key with
    -- A missing table comes to be the way the path goes.
    | none =>
      let made := if byDots then .dotted else .implied
      let inner ← descend byDots step made path []
      return put fields key (.table made inner)
    | some (.table found inner) =>
      -- Dots reach no table that has a header of its own; headers go through any.
      if byDots && found = .stated then none
      else
        let inner ← descend byDots step found path inner
        return put fields key (.table found inner)
    | some (.tables all) =>
      let last ← all.getLast?
      let inner ← descend byDots step .stated path last
      return put fields key (.tables (all.dropLast ++ [inner]))
    | some (.value _) => none

/-- A value is added under a key with dots. Nothing may stand there, and the table it is added to
must be one of dots if the key has any. -/
def addValue (fields : Fields) (path : List Text) (key : Text) (datum : Datum) : Option Fields :=
  descend true (fun origin inner =>
    -- A bare key belongs to a stated table, and dots lead only into tables made by dots.
    if (origin = .dotted) = path.isEmpty then none
    else if (find? inner key).isSome then none
    else some (put inner key (.value datum))) .stated path fields

end Fields

namespace Node

/-- The value that a node stands for, whatever way its tables came to be. -/
def toDatum : Node → Datum
  | .value datum => datum
  | .table _ fields => .table (fieldsToData fields)
  | .tables all => .list (allToData all)
where
  /-- The data of fields. -/
  fieldsToData : List (Text × Node) → List (Text × Datum)
    | [] => []
    | (key, node) :: rest => (key, node.toDatum) :: fieldsToData rest
  /-- The data of several tables. -/
  allToData : List (List (Text × Node)) → List Datum
    | [] => []
    | fields :: rest => .table (fieldsToData fields) :: allToData rest

end Node
end Toml
end IdlScout
