import IdlScout.Idl.Declaration

/-! How a declaration is printed back: as lines, each at a level of nesting. -/

namespace IdlScout

/-- Choices of layout, and whether the types referred to are included. -/
structure Layout where
  indent : Bool := true
  depth : Nat := 0
  step : Nat := 2
  includes : Bool := false
  flat : Bool := false
  deriving Repr, DecidableEq

/-- A line before its indentation. -/
structure Line where
  level : Nat
  text : Text
  deriving Repr, DecidableEq

namespace Layout

/-- The spaces before a line of a level. -/
def margin (layout : Layout) (level : Nat) : Text :=
  if layout.indent then Text.times ((layout.depth + level) * layout.step) ' ' else []

/-- Every line ends in a line feed. -/
def print (layout : Layout) (lines : List Line) : Text :=
  lines.flatMap fun line => layout.margin line.level ++ line.text ++ ['\n']

end Layout

namespace Declaration

/-- The scoped types that the members refer to, in member order. -/
def references (declaration : Declaration) : List Text :=
  declaration.members.filterMap Member.reference?

/-- The other types that the members refer to, each once. -/
def dependencies (declaration : Declaration) : List Text :=
  (declaration.references.filter (· != declaration.fullName)).eraseDups

/-- The guarded inclusion of a type's file. -/
def includeLines (flat : Bool) (name : Text) : List Line :=
  let guard := ScopedName.guard name
  [⟨0, "#ifndef ".toList ++ guard⟩,
   ⟨0, "#define ".toList ++ guard⟩,
   ⟨0, "#include \"".toList ++ ScopedName.path name flat ++ ".idl\"".toList⟩,
   ⟨0, "#endif  // ".toList ++ guard⟩]

/-- Modules are opened one inside the other around the lines they hold, and closed in turn. -/
def nest (inside : Nat → List Line) : Nat → List Text → List Line
  | level, [] => inside level
  | level, outer :: rest =>
    -- The closing brace names its module, as a reader meets it far from the opening one.
    [⟨level, "module ".toList ++ outer ++ " \x7b".toList⟩] ++ nest inside (level + 1) rest ++
      [⟨level, "\x7d; // module ".toList ++ outer⟩]

/-- The structure itself, a member a line. -/
def structLines (declaration : Declaration) (level : Nat) : List Line :=
  [⟨level, "struct ".toList ++ declaration.name ++ " \x7b".toList⟩] ++
    (declaration.members.map fun member => ⟨level + 1, Member.renameReserved member ++ [';']⟩) ++
    [⟨level, "\x7d;".toList⟩]

/-- Inclusions come first, then the structure inside its modules. -/
def lines (declaration : Declaration) (layout : Layout) : List Line :=
  -- Without inclusions the declaration stands alone.
  (if layout.includes then
    declaration.dependencies.flatMap (includeLines layout.flat)
  else []) ++ nest declaration.structLines 0 declaration.modules

/-- The declaration printed. -/
def print (declaration : Declaration) (layout : Layout) : Text :=
  layout.print (declaration.lines layout)

end Declaration
end IdlScout
