import IdlScout.Discovery.Walk
import IdlScout.Idl.ScopedName

/-! Type names taken from the paths of message definitions. -/

namespace IdlScout

/-- The ending of a message definition's file. -/
def messageExtension : Text := "msg".toList

/-- The type that a message definition's path names: package, class and type are its last three
components. -/
def messageType? (path : Text) : Option Text := do
  let parts := (Path.components path).map Path.Component.text
  match parts.drop (parts.length - 3) with
  -- With fewer than three components there is no package to name.
  | [package, group, file] =>
    let type ← Text.stripSuffix? ('.' :: messageExtension) file
    return ScopedName.ofSegments [package, group, type]
  | _ => none

/-- The message definitions below a folder, with the types they name. -/
def FileTree.messages (tree : FileTree) (folder : Text) : List (Text × Text) :=
  (tree.walk false folder).filterMap fun visit =>
    if visit.isFile && Path.extension? visit.path == some messageExtension then
      (messageType? visit.path).map fun type => (visit.path, type)
    else none

/-- The message definitions below folders, the first of each type. -/
def FileTree.scanMessages (tree : FileTree) (folders : List Text) : List (Text × Text) :=
  Text.firstsBy (fun a b => a.2 == b.2) (folders.flatMap tree.messages)

end IdlScout
