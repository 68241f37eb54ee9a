import IdlScout.Proofs.Files.Components
import Mathlib.Data.List.Nodup
import Mathlib.Data.List.Perm.Subperm

/-! Trees as they are kept: each entry once, in a folder, and under a name that a path can hold. -/

namespace IdlScout
namespace FileTree

/-- A tree as it is kept: every entry stands at a place of its own, in a folder, under a name that a
path can hold. -/
structure IsProper (tree : FileTree) : Prop where
  single : (tree.entries.map Prod.fst).Nodup
  inFolder : ∀ place entry, place ≠ [] → tree.entry? place = some entry →
    tree.entry? place.dropLast = some .folder
  named : ∀ listed ∈ tree.entries, ∀ name ∈ listed.1, IsFileName name

/-- A tree is proper if its entries are listed once, in folders and under names. -/
theorem IsProper.of_entries {tree : FileTree} (single : (tree.entries.map Prod.fst).Nodup)
    (folders : ∀ listed ∈ tree.entries, tree.entry? listed.1.dropLast = some .folder)
    (named : ∀ listed ∈ tree.entries, ∀ name ∈ listed.1, IsFileName name) : tree.IsProper where
  single := single
  inFolder := fun _ _ inner found => folders _ (listed inner found)
  named := named

namespace IsProper

variable {tree : FileTree}

end IsProper

end FileTree
end IdlScout
