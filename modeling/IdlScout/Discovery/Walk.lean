import IdlScout.Files.Tree

/-! Walks through folders, each before what it holds, names in order. -/

namespace IdlScout

/-- What a walk meets: the path it took and the entry there. -/
structure Visit where
  path : Text
  entry : Entry
  deriving Repr, DecidableEq

/-- Whether a visit met a file. -/
def Visit.isFile (visit : Visit) : Bool :=
  match visit.entry with
  | .file .. => true
  | _ => false

namespace FileTree

/-- The names in a folder in order. -/
def sortedNames (tree : FileTree) (location : Location) : List Text :=
  ((tree.children location).map Prod.fst).mergeSort fun a b => Text.order a b != .gt

/-- What a path leads to in a walk. A followed link to a folder that encloses it leads nowhere. -/
def meet? (tree : FileTree) (followLinks : Bool) (above : List Location) (path : Text) :
    Option (Location × Entry) := do
  let (location, entry) ← (tree.inspect path).toOption
  match entry with
  | .link _ =>
    if followLinks then
      let (goal, reached) ← (tree.find path).toOption
      -- Entering an enclosing folder again would never end.
      if reached = .folder && above.contains goal then none else some (goal, reached)
    -- A link that is not followed is met as what it is.
    else some (location, entry)
  | _ => some (location, entry)

/-- The walk from a folder, given the folders that enclose it and the depth left. -/
def walkFolder (tree : FileTree) (followLinks : Bool) :
    Nat → List Location → Text → Location → List Visit
  | 0, _, _, _ => []
  | depth + 1, above, path, location =>
    (tree.sortedNames location).flatMap fun name =>
      let inner := Path.join path name
      match tree.meet? followLinks (location :: above) inner with
      | none => []
      | some (place, entry) =>
        ⟨inner, entry⟩ ::
          (if entry = .folder then
            tree.walkFolder followLinks depth (location :: above) inner place
          else [])

/-- Between two followed links a path descends real folders, and no two links on it lead to the
same folder, so no path is longer than this. -/
def depthBound (tree : FileTree) : Nat :=
  (tree.entries.length + 2) * (tree.entries.length + 2)

/-- The walk from a path; a link there is always followed to a folder. -/
def walk (tree : FileTree) (followLinks : Bool) (root : Text) : List Visit :=
  match tree.meet? followLinks [] root with
  | none => []
  | some (place, entry) =>
    ⟨root, entry⟩ ::
      match entry with
      | .folder => tree.walkFolder followLinks tree.depthBound [] root place
      -- The flag speaks of links below the root, not of the root itself.
      | .link _ =>
        match tree.find root with
        | .ok (goal, .folder) => tree.walkFolder followLinks tree.depthBound [] root goal
        | _ => []
      | _ => []

end FileTree
end IdlScout
