import IdlScout.Proofs.Emission.Notices
import IdlScout.Proofs.Emission.Opening

/-! A split output stays in its folder, as long as the names of types do not lead out of it. -/

namespace IdlScout

/-- A path that names something below the folder that it is joined to. -/
structure IsInside (path : Text) : Prop where
  relative : Path.isAbsolute path = false
  nonempty : path ≠ []
  stays : staysInside 0 (FileTree.steps path) = true

instance (path : Text) : Decidable (IsInside path) :=
  decidable_of_iff (Path.isAbsolute path = false ∧ path ≠ [] ∧
      staysInside 0 (FileTree.steps path) = true)
    ⟨fun ⟨relative, nonempty, stays⟩ => ⟨relative, nonempty, stays⟩,
      fun ⟨relative, nonempty, stays⟩ => ⟨relative, nonempty, stays⟩⟩

namespace FileTree

/-- A path joined to a folder leads into it. -/
theorem isInside_of_locate {tree : FileTree} {folder relative : Text} {root : Location}
    (base : tree.base? folder = some root) (unlinked : tree.Unlinked root)
    (inside : IsInside relative) {goal : Destination}
    (located : tree.locate true (Path.join folder relative) = .ok goal) : goal.IsInside root := by
  obtain ⟨-, leads⟩ := locate_eq_ok_iff.mp located
  rw [steps_join inside.relative inside.nonempty,
    tree.origin_congr (Path.isAbsolute_join inside.relative folder)] at leads
  by_cases none : steps relative = []
  · -- The folder itself is meant.
    rw [none, List.append_nil] at leads
    cases leads.unique (leads_of_base? base)
    exact List.prefix_rfl
  · obtain ⟨left, onward⟩ := leads_below_base base none leads
    rw [← List.append_nil root] at onward
    exact onward.isInside unlinked inside.stays

/-- The folders above a path joined to a folder are confined to it. -/
theorem confined_above {tree : FileTree} {folder relative above path : Text} {root : Location}
    (base : tree.base? folder = some root) (unlinked : tree.Unlinked root)
    (inside : IsInside relative) (parent : Path.parent? (Path.join folder relative) = some above)
    (member : path ∈ upward (above.length + 1) above) : tree.Confined root path := by
  obtain ⟨names, starts⟩ := of_mem_upward member
  obtain ⟨first, same⟩ := Path.of_parent? parent
  -- `upward` ends at the empty text, which is not in its list.
  have nonempty : above ≠ [] := fun empty => by
    subst empty
    simp [upward] at member
  -- So the names of the folder above are those of the joined path, cut short.
  rw [Path.names_join inside.relative] at first
  have starts' : Path.isAbsolute path = Path.isAbsolute folder := by
    rw [starts, same nonempty, Path.isAbsolute_join inside.relative]
  refine confined_of_base? base unlinked starts' (names.trans first) ?_
  -- The names of the path are its steps, but for one that a slash at the end may add.
  refine staysInside_of_first ?_ inside.stays
  unfold steps
  split
  · exact List.prefix_append _ _
  · exact List.prefix_rfl

end FileTree

namespace Target

/-- An output that is opened to be split has its folder made. -/
theorem start_split {target opened : Target} {world after : World}
    (split : target.options.split = true)
    (starts : start (target, world) = (.ok (), opened, after)) :
    let folder := splitFolder target.options world.tree
    (∃ claimed, opened = { target with claimed, folder := some folder }) ∧
      (world.tree.makeFolders folder).1 = .ok () ∧
      after.tree = (world.tree.makeFolders folder).2 := by
  have opens := start_of_split world split
  rw [starts] at opens
  cases opens with
  | opened whole makes => exact ⟨⟨_, rfl⟩, whole, makes⟩

/-- How a file of a split output is written: if it fails, only folders were added. -/
inductive WroteBelow (root : Location) (path content : Text) (target : Target) (world : World) :
    Except OutputFault Text × Target × World → Prop where
  | failed {fault : OutputFault} {claimed : List Text} {after : World}
      (grows : FileTree.Grows root [] world.tree after.tree) :
    WroteBelow root path content target world (.error fault, { target with claimed }, after)
  | wrote {claimed : List Text} {after : World} {place : Location}
      (written : FileTree.WritesFile root place path (Utf8.encode content) world.tree after.tree) :
    WroteBelow root path content target world (.ok path, { target with claimed }, after)

/-- How a file of a split output is opened: if it fails, only folders were added. -/
inductive OpensBelow (root : Location) (path : Text) (target : Target) (before : FileTree) :
    Except OutputFault Handle × Target × World → Prop where
  | failed {fault : OutputFault} {claimed : List Text} {after : World}
      (grows : FileTree.Grows root [] before after.tree) :
    OpensBelow root path target before (.error fault, { target with claimed }, after)
  | opened {claimed : List Text} {after : World} {place : Location}
      (writes : FileTree.WritesFile root place path [] before after.tree) :
    OpensBelow root path target before (.ok ⟨place, 0, false⟩, { target with claimed }, after)

/-- A file that is opened is opened below a folder if its path leads into the folder, whatever
folders were made for it first. -/
theorem OpensFile.below {root : Location} {path : Text} {target : Target} {before : FileTree}
    {result : Except OutputFault Handle × Target × World}
    (opens : OpensFile root path false target before result)
    (folder : before.entry? root = some .folder)
    (leads : ∀ made, FileTree.Grows root [] before made → ∀ goal,
      made.locate true path = .ok goal → goal.IsInside root) :
    OpensBelow root path target before result := by
  cases opens with
  | refused _ same =>
    refine .failed ?_
    rw [same]
    exact .refl _ _ _
  | failed _ grows => exact .failed grows
  -- What was made for the file only grows below the folder, so the path still leads into it.
  | opened _ grows opens =>
    obtain ⟨fresh, writes⟩ := FileTree.writesFile_of_openFile opens
      (grows.kept (fun _ _ => by simp) folder) (leads _ grows)
    rw [fresh]
    exact .opened ⟨grows.trans writes.grows, writes.below, writes.leads, writes.content⟩

/-- A file whose path leads into the folder is opened there. -/
theorem openFile_opensBelow (target : Target) {world : World} {folder relative : Text}
    {root : Location} (base : world.tree.base? folder = some root)
    (unlinked : world.tree.Unlinked root) (inside : IsInside relative) :
    OpensBelow root (Path.join folder relative) target world.tree
      (openFile (Path.join folder relative) false (target, world)) := by
  -- The folders made on the way are each confined to the split folder.
  have opens := openFile_opens (Path.join folder relative) false target fun above parent =>
    FileTree.makeEach_grows fun path member =>
      FileTree.confined_above base unlinked inside parent member
  exact opens.below (FileTree.base?_eq_some_iff.mp base).1 fun made grows goal located =>
    FileTree.isInside_of_locate (grows.base base) (grows.unlinked unlinked) inside located

/-- A file that is opened in the folder that was made is written. -/
theorem OpensBelow.writeFile {target : Target} {world : World} {folder relative : Text}
    {root : Location} (opened : target.folder = some folder)
    (opens : OpensBelow root (Path.join folder relative) target world.tree
      (openFile (Path.join folder relative) false (target, world))) (content : Text) :
    WroteBelow root (Path.join folder relative) content target world
      (writeFile relative content (target, world)) := by
  obtain ⟨note, wrote⟩ := writeFile_apply relative content target world
  simp only [opened, Option.getD_some] at wrote
  rw [wrote]
  -- What is written is decided by the answer alone; how the file was opened no longer matters.
  generalize openFile (Path.join folder relative) false (target, world) = result at opens
  cases opens with
  | failed grows => exact .failed grows
  | opened writes => exact .wrote (writes.write (Utf8.encode content))

/-- A file whose path leads into the folder is written there. -/
theorem writeFile_wroteBelow {target : Target} {world : World} {folder relative : Text}
    {root : Location} (content : Text) (opened : target.folder = some folder)
    (base : world.tree.base? folder = some root) (unlinked : world.tree.Unlinked root)
    (inside : IsInside relative) :
    WroteBelow root (Path.join folder relative) content target world
      (writeFile relative content (target, world)) :=
  (openFile_opensBelow target base unlinked inside).writeFile opened content

/-- Wherever its path leads, a file of a split output is written there or not at all. -/
theorem writeFile_wrote_anywhere {target : Target} {folder : Text} (world : World)
    (relative content : Text) (opened : target.folder = some folder) :
    WroteBelow [] (Path.join folder relative) content target world
      (writeFile relative content (target, world)) := by
  have opens := openFile_opens_anywhere (Path.join folder relative) false target world
  exact (opens.below rfl fun _ _ _ => FileTree.isInside_root).writeFile opened content

end Target

namespace Emitter

variable {layout : Layout} {clean : Bool} {options : OutputOptions} {folder : Text}
  {root : Location}

/-- A receiver of interface text whose files stand in a folder that was made. -/
structure IsSplit (layout : Layout) (clean : Bool) (options : OutputOptions) (folder : Text)
    (emitter : Emitter) : Prop where
  kind : emitter.kind = .idl layout clean
  chosen : emitter.target.options = options
  splits : options.split = true
  handle : emitter.target.handle = none
  made : emitter.target.folder = some folder

/-- What a notice changes in the files of a split output. -/
inductive Changes (layout : Layout) (clean : Bool) (options : OutputOptions) (folder : Text)
    (root : Location) (before : FileTree) :
    Notice → Except OutputFault Unit → FileTree → Prop where
  /-- A type whose file could not be opened: only folders were added. -/
  | failed {detected : DetectedType} {fault : OutputFault} {after : FileTree}
      (grows : FileTree.Grows root [] before after) :
    Changes layout clean options folder root before (.type detected) (.error fault) after
  /-- A type that was written to its file. -/
  | wrote {detected : DetectedType} {place : Location} {after : FileTree}
      (writes : FileTree.WritesFile root place (Path.join folder (fileName options detected))
        (Utf8.encode (typeText layout clean options detected)) before after) :
    Changes layout clean options folder root before (.type detected) (.ok ()) after
  /-- Nothing but types is written to files. -/
  | other {notice : Notice} {answer : Except OutputFault Unit} (noType : notice.type? = none) :
    Changes layout clean options folder root before notice answer before

/-- Whatever a notice changes is growth below the folder. -/
theorem Changes.grows {before after : FileTree} {notice : Notice}
    {answer : Except OutputFault Unit}
    (changes : Changes layout clean options folder root before notice answer after) :
    ∃ written, FileTree.Grows root written before after := by
  cases changes with
  | failed grows => exact ⟨_, grows⟩
  | wrote writes => exact ⟨_, writes.grows⟩
  | other => exact ⟨[], .refl _ _ _⟩

/-- A type that is answered without a fault was written to its file. -/
theorem Changes.written {before after : FileTree} {detected : DetectedType}
    (changes : Changes layout clean options folder root before (.type detected) (.ok ()) after) :
    ∃ place, FileTree.WritesFile root place (Path.join folder (fileName options detected))
      (Utf8.encode (typeText layout clean options detected)) before after := by
  cases changes with
  | wrote writes => exact ⟨_, writes⟩
  | other noType => cases noType

/-- A receiver that opened a split output has made its folder. -/
theorem isSplit_of_opened {emitter : Emitter} {world after : World}
    (split : options.split = true)
    (opens : react .opened (⟨.idl layout clean, { options }⟩, world) = (.ok (), emitter, after)) :
    let folder := Target.splitFolder options world.tree
    emitter.IsSplit layout clean options folder ∧ (world.tree.makeFolders folder).1 = .ok () ∧
      after.tree = (world.tree.makeFolders folder).2 := by
  intro folder
  unfold react at opens
  -- The receiver only stores the target that was opened; the rest is the target's own step.
  rw [Act.bind_of_ok (Act.own_apply _)] at opens
  rcases starts : Target.start (({ options } : Target), world) with ⟨answer, target, later⟩
  simp only [onTarget, starts] at opens
  obtain ⟨rfl, rfl, rfl⟩ := opens
  obtain ⟨⟨claimed, rfl⟩, made, tree⟩ := Target.start_split split starts
  exact ⟨⟨rfl, rfl, split, rfl, rfl⟩, made, tree⟩

/-- After a split output was opened its folder is there. -/
theorem opened_isSplit {emitter : Emitter} {world after : World}
    (split : options.split = true) (home : world.tree.entry? world.tree.home = some .folder)
    (opens : react .opened (⟨.idl layout clean, { options }⟩, world) = (.ok (), emitter, after)) :
    let folder := Target.splitFolder options world.tree
    emitter.IsSplit layout clean options folder ∧ ∃ root, after.tree.base? folder = some root := by
  obtain ⟨isSplit, made, tree⟩ := isSplit_of_opened split opens
  rw [tree]
  exact ⟨isSplit, FileTree.base?_of_makeFolders home made⟩

/-- Every notice leaves a split output split, and only types change files, in the way in which a
file is written. -/
theorem react_changes_of_writes {emitter : Emitter} {world : World}
    (split : emitter.IsSplit layout clean options folder) (notice : Notice)
    (notOpened : notice ≠ .opened)
    (writes : ∀ detected, notice = .type detected →
      let text := typeText layout clean options detected
      Target.WroteBelow root (Path.join folder (fileName options detected)) text emitter.target world
        (Target.writeFile (fileName options detected) text (emitter.target, world))) :
    ∃ answer later after, react notice (emitter, world) = (answer, later, after) ∧
      later.IsSplit layout clean options folder ∧
      Changes layout clean options folder root world.tree notice answer after.tree := by
  obtain ⟨kind, target⟩ := emitter
  obtain ⟨rfl, rfl, splits, handle, made⟩ := split
  dsimp only at splits handle made writes ⊢
  unfold react
  rw [Act.bind_of_ok (Act.own_apply _)]
  -- Each notice keeps the four facts that make the output split; only a type has a file.
  cases notice with
  | opened => exact absurd rfl notOpened
  | type detected =>
    replace writes := writes detected rfl
    simp only [onTarget, writeType]
    rw [Act.bind_of_ok (Act.own_apply _)]
    simp only [splits, if_true]
    generalize ran : Target.writeFile _ _ _ = result at writes
    cases writes with
    -- A file that was not opened ends the notice before anything is written.
    | failed grows =>
      rw [Act.bind_of_error ran]
      exact ⟨_, _, _, rfl, ⟨rfl, rfl, splits, handle, made⟩, .failed grows⟩
    | wrote written =>
      rw [Act.bind_of_ok ran]
      exact ⟨_, _, _, rfl, ⟨rfl, rfl, splits, handle, made⟩, .wrote written⟩
  | topic detected =>
    -- Without an open file the comment is printed.
    simp only [onTarget, Target.write]
    rw [Act.bind_of_ok (Act.own_apply _)]
    simp only [handle]
    exact ⟨_, _, _, rfl, ⟨rfl, rfl, splits, handle, made⟩, .other rfl⟩
  | closed types topics =>
    exact ⟨_, _, _, rfl, ⟨rfl, rfl, splits, rfl, made⟩, .other rfl⟩

/-- Below a folder without links, types whose paths stay inside change files there. -/
theorem react_changes {emitter : Emitter} {world : World}
    (split : emitter.IsSplit layout clean options folder)
    (base : world.tree.base? folder = some root) (unlinked : world.tree.Unlinked root)
    (notice : Notice) (notOpened : notice ≠ .opened)
    (inside : ∀ detected, notice = .type detected → IsInside (fileName options detected)) :
    ∃ answer later after, react notice (emitter, world) = (answer, later, after) ∧
      later.IsSplit layout clean options folder ∧
      Changes layout clean options folder root world.tree notice answer after.tree :=
  react_changes_of_writes split notice notOpened fun detected same =>
    Target.writeFile_wroteBelow _ split.made base unlinked (inside detected same)

/-- After any notices a split output is as it was but for growth below its folder. -/
theorem reactions_grow {emitter : Emitter} {world : World}
    (split : emitter.IsSplit layout clean options folder)
    (base : world.tree.base? folder = some root) (unlinked : world.tree.Unlinked root)
    {notices : List Notice} (notOpened : .opened ∉ notices)
    (inside : ∀ detected, .type detected ∈ notices → IsInside (fileName options detected)) :
    ∃ written, FileTree.Grows root written world.tree
      (reactions notices (emitter, world)).2.2.tree := by
  -- By induction on the notices: the folder is found again after each, still without links.
  induction notices generalizing emitter world with
  | nil => exact ⟨[], .refl _ _ _⟩
  | cons notice rest ih =>
    obtain ⟨answer, later, after, reacts, stays, changes⟩ :=
      react_changes split base unlinked notice (fun same => notOpened (by simp [same]))
        fun detected same => inside detected (by simp [same])
    obtain ⟨first, grows⟩ := changes.grows
    obtain ⟨more, onward⟩ := ih stays (grows.base base) (grows.unlinked unlinked)
      (fun member => notOpened (by simp [member]))
      fun detected member => inside detected (by simp [member])
    -- What one notice wrote and what the rest wrote are below one folder.
    refine ⟨first ++ more, ?_⟩
    simp only [reactions, reacts]
    exact grows.trans onward

/-- A split output whose folder holds no links stays in that folder: whatever types it is told of,
as long as their names do not lead out of it, every entry that is added or changed after it was
opened is below the folder. -/
theorem split_stays_inside (layout : Layout) (clean : Bool) (options : OutputOptions)
    (world : World) (split : options.split = true)
    (home : world.tree.entry? world.tree.home = some .folder) (emitter : Emitter) (opened : World)
    (opens : react .opened (⟨.idl layout clean, { options }⟩, world) = (.ok (), emitter, opened)) :
    ∃ root, opened.tree.base? (Target.splitFolder options world.tree) = some root ∧
      ∀ notices : List Notice, opened.tree.Unlinked root → .opened ∉ notices →
        (∀ detected, .type detected ∈ notices → IsInside (fileName options detected)) →
        let after := (reactions notices (emitter, opened)).2.2.tree
        ∀ place, after.entry? place ≠ opened.tree.entry? place → IsBelow root place := by
  obtain ⟨isSplit, root, base⟩ := opened_isSplit split home opens
  refine ⟨root, base, ?_⟩
  intro notices unlinked notOpened inside after place changed
  obtain ⟨written, grows⟩ := reactions_grow isSplit base unlinked notOpened inside
  -- An entry either is what it was, or it is one that was written, and those are below.
  rcases grows.entries place with same | ⟨below, -⟩
  · exact absurd same changed
  · exact below

/-- The file of a type in a module, and the folder of the module, are made below the folder. -/
theorem split_stays_inside_of_one_type :
    let options : OutputOptions := { path := some "out".toList, split := true }
    let world : World := { tree := ⟨[([['h']], .folder)], [['h']]⟩ }
    let detected : DetectedType := ⟨"a::b".toList, "text".toList, none⟩
    let made : List Location :=
      [[['h'], "out".toList, ['a']], [['h'], "out".toList, ['a'], "b.idl".toList]]
    ∃ emitter opened root,
      react .opened (⟨.idl {} false, { options }⟩, world) = (.ok (), emitter, opened) ∧
      opened.tree.base? "out".toList = some root ∧
      let after := (reactions [.type detected] (emitter, opened)).2.2.tree
      ∀ place ∈ made, after.entry? place ≠ opened.tree.entry? place ∧ IsBelow root place := by
  intro options world detected made
  let first := react .opened (⟨.idl {} false, { options }⟩, world)
  -- The run is evaluated once; the theorem is then applied to what it gave.
  have runs : first.1.isOk = true ∧
      first.2.2.tree = ⟨[([['h']], .folder), ([['h'], "out".toList], .folder)], [['h']]⟩ ∧
      ∀ place ∈ made, FileTree.entry? (reactions [.type detected] first.2).2.2.tree place ≠
        first.2.2.tree.entry? place := by
    decide +kernel
  -- Nothing failed when the output was opened, so there is a receiver to go on with.
  obtain ⟨emitter, opened, opens⟩ : ∃ emitter opened, first = (.ok (), emitter, opened) := by
    rcases first with ⟨fault | _, emitter, opened⟩
    · cases runs.1
    · exact ⟨emitter, opened, rfl⟩
  rw [opens] at runs
  obtain ⟨-, tree, changed⟩ := runs
  obtain ⟨root, base, inside⟩ :=
    split_stays_inside {} false options world rfl (by decide) emitter opened opens
  -- The tree has two entries then, and both are folders.
  have unlinked : opened.tree.Unlinked root := by
    refine .of_entries fun listed member target => ?_
    rw [tree] at member
    have folder : listed.2 = .folder := by
      simp only [List.mem_cons, List.not_mem_nil, or_false] at member
      rcases member with rfl | rfl <;> rfl
    simp [folder]
  refine ⟨emitter, opened, root, opens, base, fun place member => ⟨changed place member, ?_⟩⟩
  refine inside [.type detected] unlinked (by simp) ?_ place (changed place member)
  intro other listed
  obtain rfl : other = detected := by simpa using listed
  decide

/-- The file of a type whose name climbs is made beside the folder, and nothing fails. -/
theorem split_leaves_folder :
    let options : OutputOptions := { path := some "out".toList, split := true }
    let world : World := { tree := ⟨[([['h']], .folder)], [['h']]⟩ }
    let detected : DetectedType := ⟨"..::x".toList, "text".toList, none⟩
    let place : Location := [['h'], "x.idl".toList]
    let first := react .opened (⟨.idl {} false, { options }⟩, world)
    let last := reactions [.type detected] first.2
    first.1.isOk = true ∧ first.2.2.tree.base? "out".toList = some [['h'], "out".toList] ∧
      last.1.all (·.isOk) = true ∧
      last.2.2.tree.entries =
        first.2.2.tree.entries ++ [(place, .file (Utf8.encode "text".toList) false)] ∧
      ¬ IsBelow [['h'], "out".toList] place := by
  decide +kernel

end Emitter
end IdlScout
