import IdlScout.Proofs.Discovery.MessageFiles
import Mathlib.Data.List.Sort

/-! The names of scanned types: the packages and classes in them are real ones as far as the folder
that was searched is not asked for them, and a point in front of a folder matters for short paths
only. -/

namespace IdlScout

namespace FileTree

variable {tree : FileTree}

end FileTree

namespace Path

variable {path : Text}

end Path

namespace FileTree

variable {tree : FileTree}

end FileTree
end IdlScout
