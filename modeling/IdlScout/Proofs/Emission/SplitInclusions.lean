import IdlScout.Proofs.Emission.Preservation
import IdlScout.Proofs.Emission.SplitFiles
import IdlScout.Proofs.Idl.InclusionLine

/-! Inclusions in a split output lead to the files that are written for the types they name,
whatever else is in the folder, and whether or not each module has a folder of its own. -/

namespace IdlScout

/-- The segments of a name of identifiers are words. -/
theorem IsScopedName.word {name : Text} (proper : IsScopedName name) :
    ∀ segment ∈ ScopedName.segments name, IsWordText segment := by
  obtain ⟨parts, nonempty, identifiers, rfl⟩ := proper
  have same := ScopedName.segments_ofSegments nonempty fun part member =>
    (identifiers part member).not_mem (c := ':') (by decide)
  rw [same]
  exact fun part member => (identifiers part member).word

namespace Emitter

variable {layout : Layout} {clean : Bool} {options : OutputOptions} {folder : Text}
  {start : Emitter × World} {notices : List Notice}

/-- Every notice leaves a split output split, and all that it changes is that folders are added and
at most one file is written, wherever links lead. -/
theorem react_changes_anywhere (split : start.1.IsSplit layout clean options folder)
    (notice : Notice) (notOpened : notice ≠ .opened) :
    (react notice start).2.1.IsSplit layout clean options folder ∧
      Changes layout clean options folder [] start.2.tree notice (react notice start).1
        (react notice start).2.2.tree := by
  -- Every place is below the root, so nothing is asked of links or of names.
  obtain ⟨answer, later, after, reacts, stays, changes⟩ := react_changes_of_writes split notice
    notOpened fun _ _ => Target.writeFile_wrote_anywhere start.2 _ _ split.made
  have same : react notice start = (answer, later, after) := reacts
  rw [same]
  exact ⟨stays, changes⟩

/-- After any notices a split output is split still, and the tree has grown: what was there is left
as it was, but for files that were written. -/
theorem reactions_stay_split (split : start.1.IsSplit layout clean options folder)
    (notOpened : .opened ∉ notices) :
    (reactions notices start).2.1.IsSplit layout clean options folder ∧
      ∃ written, FileTree.Grows [] written start.2.tree (reactions notices start).2.2.tree := by
  -- A receiver that is split still can be told of the next notice.
  induction notices generalizing start with
  | nil => exact ⟨split, [], .refl _ _ _⟩
  | cons notice rest ih =>
    obtain ⟨stays, changes⟩ :=
      react_changes_anywhere split notice fun same => notOpened (by simp [same])
    obtain ⟨first, grows⟩ := changes.grows
    obtain ⟨last, more, onward⟩ := ih stays fun member => notOpened (by simp [member])
    exact ⟨last, first ++ more, grows.trans onward⟩

/-- A type that a receiver is told of among some notices, and writes without a fault. -/
structure Filing (start : Emitter × World) (notices : List Notice) (detected : DetectedType) where
  before : List Notice
  after : List Notice
  told : notices = before ++ .type detected :: after
  wrote : (react (.type detected) (reactions before start).2).1 = .ok ()

namespace Filing

variable {detected : DetectedType}

/-- A file is the one that is written for the type: no other is written then, the path leads to it,
with the content unless what is written there is lost, and leads to it at the end of all notices. -/
def WritesTo (filing : Filing start notices detected) (path : Text) (content : Bytes) : Prop :=
  let state := (reactions filing.before start).2
  ∃ place, FileTree.WritesFile [] place path content state.2.tree
      (react (.type detected) state).2.2.tree ∧
    (reactions notices start).2.2.tree.locate true path = .ok (.present place)

/-- In a split output a type is written to the file of its name in the folder. -/
theorem writesTo (filing : Filing start notices detected)
    (split : start.1.IsSplit layout clean options folder) (notOpened : .opened ∉ notices) :
    filing.WritesTo (Path.join folder (fileName options detected))
      (Utf8.encode (typeText layout clean options detected)) := by
  obtain ⟨before, after, rfl, wrote⟩ := filing
  obtain ⟨stays, -⟩ :=
    reactions_stay_split split fun member => notOpened (List.mem_append_left _ member)
  obtain ⟨splitAfter, changes⟩ := react_changes_anywhere stays (.type detected) nofun
  rw [wrote] at changes
  obtain ⟨place, writes⟩ := changes.written
  refine ⟨place, writes, ?_⟩
  -- What comes after only adds to the tree, so the path leads where it did.
  obtain ⟨-, _, grows⟩ := reactions_stay_split splitAfter
    fun member => notOpened (List.mem_append_right _ (List.mem_cons_of_mem _ member))
  rw [reactions_append]
  exact grows.locate writes.leads

end Filing

/-- In a split output, with a folder for each module or without, the inclusion that a type's text
has for another type names the file that is written for that type: taken from the folder of the
output, its path leads there when the file is written, and after all notices still. -/
theorem split_includes_files (layout : Layout) (clean : Bool) (options : OutputOptions)
    (world : World) (split : options.split = true) (emitter : Emitter) (opened : World)
    (opens : react .opened (⟨.idl layout clean, { options }⟩, world) = (.ok (), emitter, opened))
    (notices : List Notice) (notOpened : .opened ∉ notices) {detected other : DetectedType}
    (found : DetectedType.detect detected.fullName detected.idl = .ok detected)
    (proper : IsScopedName other.fullName) (refers : other.fullName ∈ detected.references)
    (different : other.fullName ≠ detected.fullName)
    (own : Filing (emitter, opened) notices detected)
    (others : Filing (emitter, opened) notices other) :
    let folder := Target.splitFolder options world.tree
    let text := typeText layout clean options detected
    own.WritesTo (Path.join folder (fileName options detected)) (Utf8.encode text) ∧
      ∃ position path,
        ((detected.references.filter (· != detected.fullName)).eraseDups)[position]? =
          some other.fullName ∧
        ((Text.lines text)[4 * position + 2]?).bind Directive.ofLine? = some (.inclusion path) ∧
        others.WritesTo (Path.join folder path)
          (Utf8.encode (typeText layout clean options other)) := by
  intro folder text
  obtain ⟨isSplit, -⟩ := isSplit_of_opened split opens
  refine ⟨own.writesTo isSplit notOpened, ?_⟩
  -- A type that refers to others was understood, so its text is printed and not cleaned up.
  have parsed : detected.isParsed = true := by
    cases present : detected.declaration with
    | some declaration => simp [DetectedType.isParsed, present]
    | none => simp [DetectedType.references, present] at refers
  have printed : text = detected.print (layoutFor layout options) := by
    simp [text, typeText, parsed]
  obtain ⟨position, listed, line⟩ := DetectedType.inclusion_line (layoutFor layout options) found
    split proper.word refers different
  exact ⟨position, _, listed, printed ▸ line, others.writesTo isSplit notOpened⟩

/-- The type of a bounded sequence is included before its own file is written. -/
theorem split_includes_files_of_sequence :
    let options : OutputOptions := { path := some "out".toList, split := true }
    let world : World := { tree := ⟨[([['h']], .folder)], [['h']]⟩ }
    let outer : DetectedType := ⟨"a::T".toList, "struct a::T \x7b sequence<b::C, 4> c; \x7d;".toList,
      some ⟨[], [['a']], ['T'], ["sequence<b::C, 4> c".toList]⟩⟩
    let inner : DetectedType := ⟨"b::C".toList, "struct b::C \x7b \x7d;".toList,
      some ⟨[], [['b']], ['C'], []⟩⟩
    let notices : List Notice := [.type outer, .type inner]
    ∃ (emitter : Emitter) (opened : World) (filing : Filing (emitter, opened) notices inner),
      react .opened (⟨.idl {} false, { options }⟩, world) = (.ok (), emitter, opened) ∧
      ((Text.lines (typeText {} false options outer))[2]?).bind Directive.ofLine? =
        some (.inclusion "b/C.idl".toList) ∧
      filing.WritesTo "out/b/C.idl".toList (Utf8.encode (typeText {} false options inner)) := by
  intro options world outer inner notices
  let first := react .opened (⟨.idl {} false, { options }⟩, world)
  have runs : first.1 = .ok () ∧ (react (.type outer) first.2).1 = .ok () ∧
      (react (.type inner) (reactions [.type outer] first.2).2).1 = .ok () := by
    decide +kernel
  obtain ⟨ok, wroteOuter, wroteInner⟩ := runs
  have opens : first = (.ok (), first.2.1, first.2.2) := Prod.ext ok rfl
  have own : Filing first.2 notices outer := ⟨[], [.type inner], rfl, wroteOuter⟩
  let filing : Filing first.2 notices inner := ⟨[.type outer], [], rfl, wroteInner⟩
  have line : ((Text.lines (typeText {} false options outer))[2]?).bind Directive.ofLine? =
      some (.inclusion "b/C.idl".toList) := by decide +kernel
  have only : (outer.references.filter (· != outer.fullName)).eraseDups = ["b::C".toList] := by
    decide +kernel
  obtain ⟨-, position, path, listed, here, written⟩ := split_includes_files {} false options world
    rfl first.2.1 first.2.2 opens notices (by simp [notices]) (by decide +kernel)
    ⟨[['b'], ['C']], by decide, by decide, rfl⟩ (by decide +kernel) (by decide) own filing
  -- There is one inclusion only, so its position is the first.
  rw [only, List.getElem?_singleton, Option.ite_none_right_eq_some] at listed
  obtain rfl := listed.1
  rw [line] at here
  obtain rfl := Directive.inclusion.inj (Option.some.inj here)
  exact ⟨first.2.1, first.2.2, filing, opens, line, written⟩

end Emitter
end IdlScout
