import IdlScout.Discovery.Walk

/-! The scraper executable, searched below the entries of a library path and the working
directory. -/

namespace IdlScout

/-- The name of the executable. -/
def executableName : Text := "types_scraper_cpp".toList

/-- The variable that holds the library path. -/
def libraryPathVariable : Text := "LD_LIBRARY_PATH".toList

/-- The folders to search: the entries of a library path that are not empty, then the working
directory, the first spelling of each. -/
def searchRoots (libraryPath workingFolder : Option Text) : List Text :=
  let entries := match libraryPath with
    | some value => (Text.cut ':' value).filter fun entry => !entry.isEmpty
    | none => []
  -- A folder spelled in two ways is searched once.
  Path.distinct (entries ++ workingFolder.toList)

namespace FileTree

/-- The first file of a name below any of the roots, in the order of the roots. -/
def findBelow? (tree : FileTree) (roots : List Text) (name : Text) : Option Text :=
  roots.findSome? fun root =>
    ((tree.walk true root).find? fun visit =>
      visit.isFile && Path.lastName? visit.path == some name).map Visit.path

/-- The folders to search for the executable. -/
def executableRoots (tree : FileTree) (libraryPath : Option Text) : List Text :=
  searchRoots libraryPath (some (spell tree.home))

/-- The executable below a library path or the working directory. -/
def findExecutable? (tree : FileTree) (libraryPath : Option Text) : Option Text :=
  tree.findBelow? (tree.executableRoots libraryPath) executableName

end FileTree
end IdlScout
