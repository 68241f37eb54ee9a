import IdlScout.Discovery.MessageFile
import IdlScout.Proofs.Discovery.Walk
import IdlScout.Proofs.Text.ByteOrder
import IdlScout.Proofs.Text.Firsts
import Mathlib.Data.List.DropRight

/-! Message definitions below folders: which files they are, in which order their types come, and
that each type comes once however the folders are put together. -/

namespace IdlScout

/-- A path with an extension ends in a name with that ending, and something before it. -/
theorem Path.of_extension? {path ending : Text} (found : extension? path = some ending) :
    ∃ front stem, components path = front ++ [.name (stem ++ '.' :: ending)] ∧ stem ≠ [] := by
  -- The extension is asked of the last name, and that of the last component.
  obtain ⟨name, last, found⟩ := Option.bind_eq_some_iff.mp found
  obtain ⟨⟨stem, rest⟩, broken, kept⟩ := Option.bind_eq_some_iff.mp found
  obtain ⟨nonempty, rfl⟩ : stem ≠ [] ∧ rest = ending := by simpa using kept
  obtain ⟨c, mark, rfl⟩ := Text.of_breakLast? broken
  obtain rfl : c = '.' := by simpa using mark
  unfold lastName? at last
  split at last
  · rename_i text ends
    obtain rfl := Option.some.inj last
    obtain ⟨front, shape⟩ := List.getLast?_eq_some_iff.mp ends
    exact ⟨front, stem, shape, nonempty⟩
  · cases last

/-- The spelling of the components of a path. -/
def Path.parts (path : Text) : List Text :=
  (components path).map Component.text

/-- A message definition's path: it has the extension, and two components before its last one. -/
@[mk_iff] structure IsMessagePath (path : Text) : Prop where
  extension : Path.extension? path = some messageExtension
  deep : 3 ≤ (Path.components path).length

instance (path : Text) : Decidable (IsMessagePath path) :=
  decidable_of_iff _ (isMessagePath_iff path).symm

/-- The type that a path's last components name. -/
def typeOfParts? : List Text → Option Text
  | [package, group, file] => (Text.stripSuffix? ('.' :: messageExtension) file).map
      fun type => ScopedName.ofSegments [package, group, type]
  | _ => none

/-- The type that a path names is read off its last three components. -/
theorem messageType?_eq (path : Text) :
    messageType? path = typeOfParts? ((Path.parts path).rtake 3) := by
  unfold messageType? typeOfParts?
  show (match (Path.parts path).rtake 3 with | [_, _, _] => _ | _ => none) = _
  split
  · exact Option.map_eq_bind.symm
  · rfl

/-- An ending is stripped off what it was appended to. -/
theorem Text.stripSuffix?_append (text ending : Text) :
    stripSuffix? ending (text ++ ending) = some text := by
  rw [stripSuffix?, List.isSuffixOf?_eq_some_iff_append_eq]

/-- The last three components of a message definition's path are the package, the class and the type
with the extension, and name the type. -/
theorem IsMessagePath.named {path : Text} (isMessage : IsMessagePath path) :
    ∃ package group name, (Path.parts path).rtake 3 = [package, group, name ++ ".msg".toList] ∧
      name ≠ [] ∧ .name (name ++ ".msg".toList) ∈ Path.components path ∧
      messageType? path = some (ScopedName.ofSegments [package, group, name]) := by
  obtain ⟨front, name, shape, nonempty⟩ := Path.of_extension? isMessage.extension
  have deep := isMessage.deep
  rw [shape, List.length_append, List.length_singleton] at deep
  -- Before the last component there are two more.
  obtain ⟨more, package, group, rfl⟩ : ∃ more package group, front = more ++ [package, group] := by
    rcases List.eq_nil_or_concat front with rfl | ⟨before, group, rfl⟩
    · simp at deep
    rcases List.eq_nil_or_concat before with rfl | ⟨more, package, rfl⟩
    · simp at deep
    · exact ⟨more, package, group, by simp⟩
  have last : (Path.parts path).rtake 3 =
      [package.text, group.text, name ++ ('.' :: messageExtension)] := by
    rw [Path.parts, shape, List.rtake]
    simp [Path.Component.text]
  refine ⟨package.text, group.text, name, last, nonempty, ?_, ?_⟩
  · rw [shape]
    exact List.mem_append_right _ (List.mem_singleton_self _)
  · rw [messageType?_eq, last, typeOfParts?, Text.stripSuffix?_append]
    rfl

namespace FileTree

end FileTree

end IdlScout
