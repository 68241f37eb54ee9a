import IdlScout.Files.Path
import IdlScout.Text.Utf8

/-! A tree of files: what stands at each place, how paths lead there, and how it is changed. -/

namespace IdlScout

/-- A place in a tree: the names on the way to it from the root. Each is a name that a text spells,
so there is no place whose name would be shown as another one. -/
abbrev Location := List Text

/-- What stands at a place. -/
inductive Entry where
  | folder
  | file (content : Bytes) (executable : Bool)
  | link (target : Text)
  /-- What is written here is lost, and nothing can be read. -/
  | void
  deriving Repr, DecidableEq

/-- Entries at their places, and the place that paths without a root start from. The names in a tree
and the targets of its links are texts: files whose names are not well-formed are in none. -/
structure FileTree where
  entries : List (Location × Entry)
  home : Location
  deriving Repr, DecidableEq

/-- Why a path cannot be used. -/
inductive PathFault where
  | missing
  | taken
  | notFolder
  | isFolder
  | tooManyLinks
  | tooLong
  | unusable
  deriving Repr, DecidableEq

/-- Where a path leads: to an entry, or to a free name in a folder. -/
inductive Destination where
  | present (location : Location)
  | absent (location : Location)
  deriving Repr, DecidableEq

namespace FileTree

/-- The entry at a place; the root is a folder. -/
def entry? (tree : FileTree) (location : Location) : Option Entry :=
  if location.isEmpty then some .folder else tree.entries.lookup location

/-- The tree with an entry at a place. -/
def put (tree : FileTree) (location : Location) (entry : Entry) : FileTree :=
  { tree with entries := tree.entries.filter (·.1 != location) ++ [(location, entry)] }

/-- The names in a folder, with their entries. -/
def children (tree : FileTree) (location : Location) : List (Text × Entry) :=
  tree.entries.filterMap fun (place, entry) =>
    match place.getLast? with
    | some name => if place.dropLast = location then some (name, entry) else none
    | none => none

/-- The spelling of a place from the root. -/
def spell (location : Location) : Text :=
  '/' :: Text.join ['/'] location

/-- The most links that one path may lead through. -/
def linkLimit : Nat := 40

/-- The most bytes of a name. -/
def nameLimit : Nat := 255

/-- The most bytes of a path. -/
def pathLimit : Nat := 4095

/-- The steps of a path: a slash at the end steps into a folder like a point does. -/
def steps (path : Text) : List Text :=
  let pieces := (Text.cut '/' path).filter fun piece => !piece.isEmpty
  if path.getLast? = some '/' then pieces ++ [['.']] else pieces

/-- Steps taken from a place up to the first link, and what is given leads on through that. The last
name is followed when it is a link only if the flag says so. -/
def advance (tree : FileTree) (followLast : Bool)
    (through : Location → List Text → Except PathFault Destination) (current : Location) :
    List Text → Except PathFault Destination
  | [] => .ok (.present current)
  | step :: rest =>
    -- Every step is taken from a folder, a step to the folder itself too.
    if tree.entry? current ≠ some .folder then .error .notFolder
    else if step = ['.'] then tree.advance followLast through current rest
    else if step = "..".toList then tree.advance followLast through current.dropLast rest
    else if Utf8.size step > nameLimit then .error .tooLong
    else
      match tree.entry? (current ++ [step]) with
      -- A free name may only stand last.
      | none => if rest.isEmpty then .ok (.absent (current ++ [step])) else .error .missing
      | some (.link target) =>
        if rest.isEmpty && !followLast then .ok (.present (current ++ [step]))
        -- The target takes the place of the link, and the steps after it follow.
        else through (if Path.isAbsolute target then [] else current) (steps target ++ rest)
      | some _ => tree.advance followLast through (current ++ [step]) rest

/-- Steps taken from a place, through a limited number of links. -/
def follow (tree : FileTree) (followLast : Bool) :
    Nat → Location → List Text → Except PathFault Destination
  | 0 => tree.advance followLast fun _ _ => .error .tooManyLinks
  | links + 1 => tree.advance followLast (tree.follow followLast links)

/-- Whether a path can be looked up at all. -/
def check (path : Text) : Except PathFault Unit :=
  if path.isEmpty then .error .missing
  else if path.contains (Char.ofNat 0) then .error .unusable
  else if Utf8.size path > pathLimit then .error .tooLong
  else .ok ()

/-- The place that a path starts from. -/
def origin (tree : FileTree) (path : Text) : Location :=
  if Path.isAbsolute path then [] else tree.home

/-- Where a path leads. -/
def locate (tree : FileTree) (followLast : Bool) (path : Text) :
    Except PathFault Destination := do
  check path
  tree.follow followLast linkLimit (tree.origin path) (steps path)

/-- The place and the entry that a destination holds. -/
def arrive (tree : FileTree) : Destination → Except PathFault (Location × Entry)
  | .absent _ => .error .missing
  | .present location =>
    match tree.entry? location with
    | some entry => .ok (location, entry)
    | none => .error .missing

/-- The place and the entry that a path leads to. -/
def find (tree : FileTree) (path : Text) : Except PathFault (Location × Entry) :=
  tree.locate true path >>= tree.arrive

/-- The place and the entry that a path names, even when the entry is a link. -/
def inspect (tree : FileTree) (path : Text) : Except PathFault (Location × Entry) :=
  tree.locate false path >>= tree.arrive

/-- Whether a path leads to an entry. -/
def has (tree : FileTree) (path : Text) : Bool :=
  (tree.find path).toOption.isSome

/-- Whether a path leads to a folder. -/
def hasFolder (tree : FileTree) (path : Text) : Bool :=
  match tree.find path with
  | .ok (_, .folder) => true
  | _ => false

/-- The content of the file that a path leads to. -/
def read (tree : FileTree) (path : Text) : Except PathFault Bytes := do
  match ← tree.find path with
  | (_, .file content _) => return content
  -- A void has an end before its first byte.
  | (_, .void) => return []
  | _ => throw .isFolder

/-- Slashes at the end of a path to be made say nothing. -/
def dropSlashes (path : Text) : Text :=
  match (path.reverse.dropWhile (· == '/')).reverse with
  | [] => path
  | kept => kept

/-- A folder is made at a free name. -/
def makeFolder (tree : FileTree) (path : Text) : Except PathFault FileTree := do
  -- The slashes count for the length of the path.
  check path
  match ← tree.locate false (dropSlashes path) with
  | .present _ => throw .taken
  | .absent location => return tree.put location .folder

/-- A path and the paths above it, nearest first, down to the last that is not empty. -/
def upward : Nat → Text → List Text
  | 0, _ => []
  | fuel + 1, path =>
    if path.isEmpty then []
    else path :: ((Path.parent? path).map (upward fuel)).getD []

/-- A folder is made after those above it, each unless it is there. -/
def makeEach (tree : FileTree) : List Text → Except PathFault Unit × FileTree
  | [] => (.ok (), tree)
  | path :: above =>
    match tree.makeFolder path with
    | .ok made => (.ok (), made)
    -- Only a missing folder above is made; other faults end the attempt.
    | .error .missing =>
      match tree.makeEach above with
      | (.error fault, reached) => (.error fault, reached)
      | (.ok (), reached) =>
        match reached.makeFolder path with
        | .ok made => (.ok (), made)
        | .error fault =>
          -- What stands there already may be the folder wished for.
          (if reached.hasFolder path then .ok () else .error fault, reached)
    | .error fault => (if tree.hasFolder path then .ok () else .error fault, tree)

/-- A folder is made with all folders above it; what was made before a fault stays. -/
def makeFolders (tree : FileTree) (path : Text) : Except PathFault Unit × FileTree :=
  tree.makeEach (upward (path.length + 1) path)

end FileTree

/-- An open file: its place, and where the next bytes go. -/
structure Handle where
  location : Location
  position : Nat
  append : Bool
  deriving Repr, DecidableEq

/-- Bytes written over others from a position on; a gap before it is filled with zeros. -/
def overwrite (content : Bytes) (position : Nat) (bytes : Bytes) : Bytes :=
  content.take position ++ List.replicate (position - content.length) 0 ++ bytes ++
    content.drop (position + bytes.length)

namespace FileTree

/-- A file is opened for writing, and made if its name is free. Unless bytes are to be appended,
its content is dropped. -/
def openFile (tree : FileTree) (path : Text) (append : Bool) :
    Except PathFault (Handle × FileTree) := do
  match ← tree.locate true path with
  | .absent location => return (⟨location, 0, append⟩, tree.put location (.file [] false))
  | .present location =>
    match tree.entry? location with
    | some (.file content executable) =>
      -- The content is dropped on opening, before anything is written.
      let kept := if append then content else []
      return (⟨location, 0, append⟩, tree.put location (.file kept executable))
    | some .void => return (⟨location, 0, append⟩, tree)
    | _ => throw .isFolder

/-- Bytes are written at the position of a handle, or at the end when it appends. -/
def write (tree : FileTree) (handle : Handle) (bytes : Bytes) : Handle × FileTree :=
  match tree.entry? handle.location with
  | some (.file content executable) =>
    if bytes.isEmpty then (handle, tree) else
    -- An appending handle looks for the end anew each time.
    let position := if handle.append then content.length else handle.position
    ({ handle with position := position + bytes.length },
      tree.put handle.location (.file (overwrite content position bytes) executable))
  | _ => (handle, tree)

/-- An entry is set at a place, with folders above it. -/
def plant (tree : FileTree) (location : Location) (entry : Entry) : FileTree :=
  -- All places above, from the root on.
  let above := (List.range location.length).map location.take
  let made := above.foldl (fun tree place =>
    if (tree.entry? place).isSome then tree else tree.put place .folder) tree
  made.put location entry

end FileTree
end IdlScout
