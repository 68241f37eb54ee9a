import IdlScout.CommandLine.Program

/-! The command line on the files that it names. The run itself is done on a picture of them, and
what it changed is written afterwards. -/

namespace IdlScout.Main

/-- The place of a path, seen from a folder. -/
def place (home : Location) (path : Text) : Location :=
  (FileTree.steps path).foldl (fun location step =>
    if step = ['.'] then location
    else if step = "..".toList then location.dropLast
    else location ++ [step]) (if Path.isAbsolute path then [] else home)

/-- What a path leads to on disk: a file, a folder, or nothing. -/
def look (path : Text) : IO (Option Entry) := do
  match ← (IO.FS.readBinFile (String.ofList path)).toBaseIO with
  | .ok content => return some (.file content.toList true)
  | .error (.noFileOrDirectory ..) => return none
  | .error _ => return some .folder

/-- The picture with what some paths lead to. -/
def draw (tree : FileTree) : List Text → IO FileTree
  | [] => return tree
  | path :: rest => do
    match ← look path with
    | some entry => draw (tree.plant (place tree.home path) entry) rest
    | none => draw tree rest

/-- The paths that choices and settings name. -/
def namedPaths (choices : Choices) (settings : Settings) : List Text :=
  settings.captured ++ choices.output.toList ++ choices.topicsList.toList ++
    settings.executable.toList

/-- The picture of all files that arguments name. -/
def drawNamed (arguments : List Text) (tree : FileTree) : IO FileTree := do
  match Choices.read arguments with
  | .error _ => return tree
  | .ok choices =>
    let tree ← draw tree choices.settingsFile.toList
    match Program.settingsOf choices { tree } with
    | .error _ => return tree
    | .ok settings => draw tree (namedPaths choices settings)

/-- The places that differ between two pictures. -/
def changes (before after : FileTree) : List (Location × Entry) :=
  after.entries.filter fun (location, entry) => before.entry? location != some entry

/-- Files and folders that were changed are written. -/
def save : List (Location × Entry) → IO Unit
  | [] => return
  | (location, entry) :: rest => do
    let path := String.ofList (FileTree.spell location)
    match entry with
    | .folder => IO.FS.createDirAll path
    | .file content _ => IO.FS.writeBinFile path ⟨content.toArray⟩
    | _ => pure ()
    save rest

/-- Files that a run is about to make, and that are there already, come into the picture, until
there are no more of them. -/
partial def settle (invocation : Invocation) (tree : FileTree) : IO (FileTree × Report) := do
  let report := Program.run invocation { tree }
  let fresh := (changes tree report.world.tree).filter fun (location, _) =>
    (tree.entry? location).isNone
  let known ← draw tree (fresh.map fun (location, _) => FileTree.spell location)
  if known = tree then return (tree, report) else settle invocation known

/-- The text of a line of messages, events with the moment left out. -/
def messageText : MessageLine → Text
  | .event text | .plain text => text

/-- The variables that the program looks at, as far as they are set. -/
def environment : List Text → IO (List (Text × Text))
  | [] => return []
  | name :: rest => do
    let more ← environment rest
    match ← IO.getEnv (String.ofList name) with
    | some value => return (name, value.toList) :: more
    | none => return more

/-- Everything on standard input, if it is one of the inputs. -/
def readInput (arguments : List Text) : IO Bytes := do
  match Choices.read arguments with
  | .ok choices =>
    if choices.settings.readsStandardInput then
      return (← (← IO.getStdin).readBinToEnd).toList
    else return []
  | .error _ => return []

end IdlScout.Main

open IdlScout in
/-- The program: what it prints and changes, and the number it ends with. -/
def main (arguments : List String) : IO UInt32 := do
  let arguments := arguments.map String.toList
  let home := Main.place [] (toString (← IO.currentDir)).toList
  let tree ← Main.drawNamed arguments { entries := [(home, .folder)], home }
  let environment ← Main.environment [libraryPathVariable, Program.filterVariable]
  let invocation : Invocation :=
    { arguments, input := ← Main.readInput arguments, environment }
  let (tree, report) ← Main.settle invocation tree
  Main.save (Main.changes tree report.world.tree)
  (← IO.getStdout).write ⟨report.world.output.toArray⟩
  for line in report.messages do
    IO.eprintln (String.ofList (Main.messageText line))
  return report.exitCode.toUInt32
