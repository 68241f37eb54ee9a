import IdlScout.Discovery.Walk
import IdlScout.Proofs.Files.Lookup
import IdlScout.Proofs.Files.Proper
import IdlScout.Proofs.Text.NameMap

/-! A walk through a folder meets every entry below it whose path is not too long, each folder
before what it holds, and names in order. -/

namespace IdlScout
namespace FileTree

section Names

variable {tree : FileTree} {place : Location}

end Names

/-- What is below a folder, by the names on the way there, as far as the paths are not too long: the
folders in it before what they hold. -/
def reached (tree : FileTree) : Nat → Text → Location → List Location
  | 0, _, _ => []
  | depth + 1, path, place =>
    (tree.sortedNames place).flatMap fun name =>
      if Utf8.size (Path.join path name) ≤ pathLimit then
        [name] :: (tree.reached depth (Path.join path name) (place ++ [name])).map (name :: ·)
      else []

section Reached

variable {tree : FileTree}

end Reached

section Files

variable {tree : FileTree}

end Files

end FileTree
end IdlScout
