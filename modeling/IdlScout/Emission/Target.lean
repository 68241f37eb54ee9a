import IdlScout.World

/-! Where output goes: to one file, to files in a folder, or to standard output. What was there
before a run is kept unless the options say otherwise. -/

namespace IdlScout

/-- Choices about where output goes. -/
structure OutputOptions where
  /-- The file, or the folder of a split output. -/
  path : Option Text := none
  append : Bool := false
  overwrite : Bool := false
  /-- Every type gets a file of its own. -/
  split : Bool := false
  /-- Files of a split output stand in one folder. -/
  flat : Bool := false
  deriving Repr, DecidableEq

/-- Why an output fails. -/
inductive OutputFault where
  /-- A path cannot be used. -/
  | unusable (fault : PathFault)
  /-- Something is there already. -/
  | taken (isFolder : Bool) (path : Text)
  deriving Repr, DecidableEq

/-- The word for what an output path names. -/
def kindOfOutput (isFolder : Bool) : Text :=
  if isFolder then "directory".toList else "file".toList

/-- The wording of a path that cannot be used. -/
def PathFault.message : PathFault → Text
  | .missing => "No such file or directory (os error 2)".toList
  | .taken => "File exists (os error 17)".toList
  | .notFolder => "Not a directory (os error 20)".toList
  | .isFolder => "Is a directory (os error 21)".toList
  | .tooManyLinks => "Too many levels of symbolic links (os error 40)".toList
  | .tooLong => "File name too long (os error 36)".toList
  | .unusable => "file name contained an unexpected NUL byte".toList

/-- The wording of a fault. -/
def OutputFault.message : OutputFault → Text
  | .unusable fault => "I/O error: ".toList ++ fault.message
  | .taken isFolder path =>
    "output ".toList ++ kindOfOutput isFolder ++ " already exists: ".toList ++ path

/-- An output: its options, the open file, the folder that was opened, and the paths that this
run has claimed. -/
structure Target where
  options : OutputOptions
  handle : Option Handle := none
  folder : Option Text := none
  claimed : List Text := []
  deriving Repr, DecidableEq

namespace Target

/-- A path was claimed by this run. -/
def hasClaimed (target : Target) (path : Text) : Bool :=
  target.claimed.any (Path.same path)

/-- A path is claimed, unless something is there that may not be touched. -/
def claim (path : Text) (isFolder append : Bool) : Act Target OutputFault Unit := do
  Act.note .info .output ("open output ".toList ++ kindOfOutput isFolder ++ ": ".toList ++ path ++
    (if append then " (append)".toList else []))
  let target ← Act.own
  -- What this run claimed before was made by it, and may be written again.
  if (← Act.world).tree.has path && !target.options.overwrite && !append &&
      !target.hasClaimed path then
    throw (.taken isFolder path)
  Act.change fun target => { target with claimed := path :: target.claimed }

/-- Folders are made down to a path. -/
def makeFolders (path : Text) : Act Target OutputFault Unit := do
  let (made, tree) := (← Act.world).tree.makeFolders path
  Act.setTree tree
  match made with
  | .ok () => return ()
  | .error fault => throw (.unusable fault)

/-- A claimed file is opened, in a folder made for it. -/
def openFile (path : Text) (append : Bool) : Act Target OutputFault Handle := do
  claim path false append
  match Path.parent? path with
  | some above => makeFolders above
  | none => pure ()
  match (← Act.world).tree.openFile path append with
  | .error fault => throw (.unusable fault)
  | .ok (handle, tree) =>
    Act.setTree tree
    return handle

/-- The folder that paths without a root start from. -/
def homeFolder : Act Target OutputFault Text := do
  return FileTree.spell (← Act.world).tree.home

/-- The file is opened, or the folder of a split output made; standard output needs neither. -/
def start : Act Target OutputFault Unit := do
  let options := (← Act.own).options
  -- Standard output has nothing to open.
  if options.path.isNone && !options.split then return
  let path ← match options.path with
    | some path => pure path
    | none => homeFolder
  if options.split then
    claim path true options.append
    makeFolders path
    Act.change fun target => { target with folder := some path }
  else
    let handle ← openFile path options.append
    Act.change fun target => { target with handle := some handle }

/-- Text that does not end a line gets a line feed. -/
def ended (text : Text) : Text :=
  if text.getLast? = some '\n' then text else text ++ ['\n']

/-- Whole lines are written to the open file, or to standard output. -/
def write (text : Text) : Act Target OutputFault Unit := do
  let bytes := Utf8.encode (ended text)
  -- Without an open file the lines go to standard output.
  match (← Act.own).handle with
  | none => Act.print bytes
  | some handle =>
    let (handle, tree) := (← Act.world).tree.write handle bytes
    Act.setTree tree
    Act.change fun target => { target with handle := some handle }

/-- A file of a split output is written anew; the result is its path. -/
def writeFile (relative content : Text) : Act Target OutputFault Text := do
  let base ← match (← Act.own).folder with
    | some folder => pure folder
    | none => homeFolder
  let path := Path.join base relative
  -- Each type has its own file, so nothing is appended to it.
  let handle ← openFile path false
  Act.setTree ((← Act.world).tree.write handle (Utf8.encode content)).2
  Act.note .info .output ("created file: ".toList ++ path)
  return path

/-- The open file is released. -/
def finish : Act Target OutputFault Unit :=
  Act.change fun target => { target with handle := none }

end Target
end IdlScout
