import IdlScout.Text.Blank

/-! Fully-qualified names, their segments, and the guards and file paths made of them. -/

namespace IdlScout
namespace ScopedName

/-- The mark between the segments of a fully-qualified name. -/
def separator : Text := "::".toList

/-- The segments of a name, outermost first. -/
def segments (name : Text) : List Text :=
  Text.cutAll separator name

/-- The name with these segments. -/
def ofSegments (parts : List Text) : Text :=
  Text.join separator parts

/-- A name holds a separator when it names something inside a module. -/
def isScoped (name : Text) : Bool :=
  Text.occursIn separator name

/-- The macro that guards the inclusion of a type's file. -/
def guard (name : Text) : Text :=
  Text.replace separator ['_'] name

/-- The path of a type's file without extension, in one folder or in a folder per module. -/
def path (name : Text) (flat : Bool) : Text :=
  Text.replace separator [if flat then '_' else '/'] name

end ScopedName
end IdlScout
