import IdlScout.Files.RawPath

/-! Values of any shape, as configuration formats hold them. -/

namespace IdlScout

/-- A value read from a configuration. -/
inductive Datum where
  | null
  | flag (value : Bool)
  | integer (value : Int)
  | text (value : Text)
  | list (items : List Datum)
  | table (fields : List (Text × Datum))
  /-- A value of a kind that no setting has, such as a date. -/
  | other
  deriving Repr

namespace Datum

/-- The truth value, if it is one. -/
def flag? : Datum → Option Bool
  | .flag value => some value
  | _ => none

/-- The text, if it is one. -/
def text? : Datum → Option Text
  | .text value => some value
  | _ => none

/-- The texts of a list that holds nothing else. -/
def texts? : Datum → Option (List Text)
  | .list items => items.mapM text?
  | _ => none

/-- The path that a text spells, if it is one. -/
def path? (datum : Datum) : Option RawPath :=
  datum.text?.map RawPath.ofText

/-- The paths that the texts of a list spell. -/
def paths? (datum : Datum) : Option (List RawPath) :=
  datum.texts?.map (List.map RawPath.ofText)

/-- The number, if it is one between zero and a bound. -/
def natural? (bound : Nat) : Datum → Option Nat
  | .integer (.ofNat value) => if value ≤ bound then some value else none
  | _ => none

/-- Null stands for a setting that is not made. -/
def optional? {α : Type} (read : Datum → Option α) : Datum → Option (Option α)
  | .null => some none
  | datum => (read datum).map some

end Datum
end IdlScout
