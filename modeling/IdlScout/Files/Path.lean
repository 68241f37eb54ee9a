import IdlScout.Text.Basic

/-! Paths as they are written, and the components that they are compared by. A path here is one that
a text spells. The system takes names of any bytes, and a program that shows such a name as a text
may lose some of it; a path of a text is shown as it is, so none of this is seen here. -/

namespace IdlScout
namespace Path

/-- A component of a path. -/
inductive Component where
  | root
  | here
  | up
  | name (text : Text)
  deriving Repr, DecidableEq

/-- A piece that changes nothing after another one. -/
def isPadding (piece : Text) : Bool :=
  piece.isEmpty || piece == ['.']

/-- The component that a piece between slashes stands for. -/
def ofPiece (piece : Text) : Component :=
  if piece = "..".toList then .up else .name piece

/-- A path starts at the root, at a leading point, or with its first name. -/
inductive Start where
  | root
  | here
  | bare
  deriving Repr, DecidableEq

/-- The start of a path and the pieces after it. -/
def pieces (path : Text) : Start × List Text :=
  match path with
  | '/' :: body => (.root, Text.cut '/' body)
  | _ =>
    match Text.cut '/' path with
    -- Only the first piece of a path keeps its point.
    | ['.'] :: body => (.here, body)
    | body => (.bare, body)

/-- Whether a path starts at the root. -/
def isAbsolute (path : Text) : Bool :=
  path.head? == some '/'

/-- The component that a start stands for. -/
def Start.components : Start → List Component
  | .root => [.root]
  | .here => [.here]
  | .bare => []

/-- Repeated slashes and points after the start stand for nothing. -/
def components (path : Text) : List Component :=
  let (start, body) := pieces path
  start.components ++ (body.filter fun piece => !isPadding piece).map ofPiece

/-- Paths are the same when their components are. -/
def same (a b : Text) : Bool :=
  components a == components b

/-- The spelling of a component. -/
def Component.text : Component → Text
  | .root => ['/']
  | .here => ['.']
  | .up => "..".toList
  | .name text => text

/-- A path below another, unless it starts at the root by itself. -/
def join (base rest : Text) : Text :=
  if isAbsolute rest then rest
  else if base.isEmpty || base.getLast? == some '/' then base ++ rest
  else base ++ ['/'] ++ rest

/-- Pieces without the padding at their end. -/
def dropPadding (body : List Text) : List Text :=
  -- Padding inside stays, since the spelling of what is left does not change.
  (body.reverse.dropWhile isPadding).reverse

/-- The path with a start and pieces. -/
def ofPieces (start : Start) (body : List Text) : Text :=
  match start, body with
  | .root, _ => '/' :: Text.join ['/'] body
  | .here, [] => ['.']
  | .here, _ => "./".toList ++ Text.join ['/'] body
  | .bare, _ => Text.join ['/'] body

/-- The path without its last component; the root and the empty path have none. -/
def parent? (path : Text) : Option Text :=
  let (start, body) := pieces path
  match dropPadding body with
  -- A point alone is a component, and nothing stands above it.
  | [] => if start = .here then some [] else none
  | kept => some (ofPieces start (dropPadding kept.dropLast))

/-- The last component, if it is a name. -/
def lastName? (path : Text) : Option Text :=
  match (components path).getLast? with
  | some (.name text) => some text
  | _ => none

/-- What follows the last point of the last name, unless that point starts it. -/
def extension? (path : Text) : Option Text := do
  let name ← lastName? path
  let (stem, ending) ← Text.breakLast? (· == '.') name
  -- A name that starts with its only point has no extension.
  if stem.isEmpty then none else some ending

/-- The first spelling of each path, in order. -/
def distinct (paths : List Text) : List Text :=
  Text.firstsBy same paths

end Path
end IdlScout
