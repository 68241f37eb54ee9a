import IdlScout.Text.Basic

/-! Values under names, in the order of the names. -/

namespace IdlScout

/-- Each name stands once, and before all greater names. -/
abbrev NameMap (α : Type) := List (Text × α)

namespace NameMap

variable {α : Type}

/-- A value takes its place under a name, and that of an older one of the same name. -/
def insert (name : Text) (value : α) : NameMap α → NameMap α
  | [] => [(name, value)]
  | (other, kept) :: rest =>
    match Text.order name other with
    -- All later names are greater still, so the new one stands here.
    | .lt => (name, value) :: (other, kept) :: rest
    -- One name holds one value, the later one.
    | .eq => (name, value) :: rest
    | .gt => (other, kept) :: insert name value rest

/-- The names in order. -/
def names (map : NameMap α) : List Text :=
  map.map Prod.fst

/-- The values in the order of their names. -/
def values (map : NameMap α) : List α :=
  map.map Prod.snd

end NameMap
end IdlScout
