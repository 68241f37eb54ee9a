import IdlScout.Proofs.Emission.SplitFolder
import IdlScout.Proofs.Idl.Name

/-! Files of a split output: as long as no two names share a file, each file holds the last type of
its name. -/

namespace IdlScout

/-- A name of identifiers with separators between them. -/
def IsScopedName (name : Text) : Prop :=
  ∃ parts, parts ≠ [] ∧ (∀ part ∈ parts, IsIdentifier part) ∧ name = ScopedName.ofSegments parts

/-- A name of identifiers has no slash in it. -/
theorem IsScopedName.not_mem_slash {name : Text} (proper : IsScopedName name) : '/' ∉ name := by
  obtain ⟨parts, -, identifiers, rfl⟩ := proper
  intro inside
  -- A name is made of word characters and colons, and a slash is neither.
  rcases ScopedName.isWord_of_mem_ofSegments identifiers inside with colon | word
  · exact absurd colon (by decide)
  · exact absurd word (by decide)

namespace ScopedName

/-- The path of a name joins its identifiers. -/
theorem path_ofSegments {parts : List Text} (nonempty : parts ≠ [])
    (identifiers : ∀ part ∈ parts, IsIdentifier part) (flat : Bool) :
    path (ofSegments parts) flat = Text.join [if flat then '_' else '/'] parts := by
  have same := segments_ofSegments nonempty fun part member =>
    (identifiers part member).not_mem (c := ':') (by decide)
  rw [segments] at same
  rw [path, Text.replace, same]

/-- Without a common folder each identifier is a piece of the path. -/
theorem cut_path {parts : List Text} (nonempty : parts ≠ [])
    (identifiers : ∀ part ∈ parts, IsIdentifier part) :
    Text.cut '/' (path (ofSegments parts) false) = parts := by
  rw [path_ofSegments nonempty identifiers]
  exact Text.cut_join nonempty fun part member => (identifiers part member).not_mem (by decide)

/-- The pieces of the path of a name are identifiers. -/
theorem isIdentifier_of_mem_cut_path {name : Text} (proper : IsScopedName name) {flat : Bool}
    {piece : Text} (member : piece ∈ Text.cut '/' (path name flat)) : IsIdentifier piece := by
  obtain ⟨parts, nonempty, identifiers, rfl⟩ := proper
  -- With folders for modules each identifier is a piece of its own.
  cases flat with
  | false =>
    rw [cut_path nonempty identifiers] at member
    exact identifiers piece member
  | true =>
    -- In one folder the whole path is one identifier.
    have word : ∀ c ∈ path (ofSegments parts) true, isWord c = true := by
      intro c inside
      rw [path_ofSegments nonempty identifiers] at inside
      rcases Text.mem_of_mem_join inside with between | ⟨part, listed, inPart⟩
      · obtain rfl : c = '_' := by simpa using between
        decide
      · exact (identifiers part listed).word c inPart
    have single : '/' ∉ path (ofSegments parts) true := fun inside => by
      have slash := word '/' inside
      revert slash
      decide
    rw [Text.cut_of_not_mem single, List.mem_singleton] at member
    subst member
    refine ⟨?_, word⟩
    rw [path_ofSegments nonempty identifiers]
    -- At least one identifier is in it, so it is not empty.
    obtain ⟨part, rest, rfl⟩ := List.exists_cons_of_ne_nil nonempty
    have first := (identifiers part (by simp)).nonempty
    cases part with
    | nil => exact absurd rfl first
    | cons c tail =>
      rw [Text.join_cons_cons]
      exact List.cons_ne_nil _ _

end ScopedName

namespace Emitter

variable {layout : Layout} {clean : Bool} {options : OutputOptions} {folder : Text}
  {root : Location}

/-- The steps to the file of a type are the pieces of its path, with an ending after the last. -/
theorem steps_fileName (options : OutputOptions) {detected : DetectedType}
    (proper : IsScopedName detected.fullName) :
    FileTree.steps (fileName options detected) = Text.cut '/' (fileName options detected) ∧
      ∀ step ∈ Text.cut '/' (fileName options detected), IsName step ∧ step ≠ [] := by
  -- The ending belongs to the last piece, so the other pieces are those of the path.
  obtain ⟨front, last, pieces⟩ := List.eq_nil_or_concat (Text.cut '/' (detected.path options.flat))
    |>.resolve_left (Text.cut_ne_nil _ _)
  rw [List.concat_eq_append] at pieces
  have all : Text.cut '/' (fileName options detected) = front ++ [last ++ ".idl".toList] :=
    Text.cut_append_tail (by decide) pieces
  have identifier {piece : Text} (member : piece ∈ front ++ [last]) : IsIdentifier piece := by
    rw [← pieces] at member
    exact ScopedName.isIdentifier_of_mem_cut_path proper member
  have named : ∀ step ∈ Text.cut '/' (fileName options detected), IsName step ∧ step ≠ [] := by
    intro step member
    rw [all, List.mem_append, List.mem_singleton] at member
    rcases member with inner | rfl
    · -- Neither of the two steps that are no names is a word.
      have plain := identifier (List.mem_append_left _ inner)
      refine ⟨⟨?_, ?_⟩, plain.nonempty⟩
      · rintro rfl
        exact absurd (plain.word '.' (by simp)) (by decide)
      · rintro rfl
        exact absurd (plain.word '.' (by simp)) (by decide)
    · -- With its ending the last one is longer than both.
      have long : 4 ≤ (last ++ ".idl".toList).length := by simp
      refine ⟨⟨fun same => ?_, fun same => ?_⟩, fun same => ?_⟩
      all_goals
        rw [same] at long
        revert long
        decide
  -- The file's name ends in a letter, so no point is added to its steps.
  have noSlash : ¬ (fileName options detected).getLast? = some '/' := by
    rw [fileName, List.getLast?_append]
    simp
  refine ⟨?_, named⟩
  rw [FileTree.steps, if_neg noSlash]
  exact List.filter_eq_self.mpr fun step member => by simpa using (named step member).2

/-- The file of a type is inside the folder. -/
theorem isInside_fileName (options : OutputOptions) {detected : DetectedType}
    (proper : IsScopedName detected.fullName) :
    IsInside (fileName options detected) := by
  obtain ⟨steps, names⟩ := steps_fileName options proper
  have nonempty : fileName options detected ≠ [] := by simp [fileName]
  refine ⟨?_, nonempty, ?_⟩
  · -- A slash at the start would end an empty piece.
    cases shape : fileName options detected with
    | nil => rfl
    | cons c rest =>
      have other : c ≠ '/' := by
        rintro rfl
        rw [shape, Text.cut, if_pos rfl] at names
        exact (names [] (by simp)).2 rfl
      simpa [Path.isAbsolute] using other
  · rw [steps]
    exact staysInside_of_names (fun step member => (names step member).1) 0

/-- Types whose files are at the same place have the same path. -/
theorem path_of_steps {a b : DetectedType} (properA : IsScopedName a.fullName)
    (properB : IsScopedName b.fullName)
    (same : FileTree.steps (fileName options a) = FileTree.steps (fileName options b)) :
    a.path options.flat = b.path options.flat := by
  rw [(steps_fileName options properA).1, (steps_fileName options properB).1] at same
  -- Joined again, the pieces give the paths, both with the same ending.
  have joined := congrArg (Text.join ['/']) same
  rw [Text.join_cut, Text.join_cut] at joined
  exact List.append_cancel_right joined

/-- A file below the folder is written at the place that the steps to it spell. -/
theorem place_of_writesFile {before after : FileTree} {relative : Text} {content : Bytes}
    {place : Location} (base : before.base? folder = some root) (unlinked : before.Unlinked root)
    (inside : IsInside relative) (names : ∀ step ∈ FileTree.steps relative, IsName step)
    (nonempty : FileTree.steps relative ≠ [])
    (writes : FileTree.WritesFile root place (Path.join folder relative) content before after) :
    place = root ++ FileTree.steps relative := by
  -- The file is found by its whole path, of which the first part leads to the folder.
  obtain ⟨-, leads⟩ := FileTree.locate_eq_ok_iff.mp writes.leads
  rw [FileTree.steps_join inside.relative inside.nonempty,
    after.origin_congr (Path.isAbsolute_join inside.relative folder)] at leads
  obtain ⟨left, onward⟩ :=
    FileTree.leads_below_base (writes.grows.base base) nonempty leads
  rw [← List.append_nil root] at onward
  have spelled := onward.place_of_names (writes.grows.unlinked unlinked) names
  rwa [List.append_nil] at spelled

/-- The file of a type holds its text. -/
structure Filed (layout : Layout) (clean : Bool) (options : OutputOptions) (folder : Text)
    (root : Location) (tree : FileTree) (detected : DetectedType) : Prop where
  leads : tree.locate true (Path.join folder (fileName options detected)) =
    .ok (.present (root ++ FileTree.steps (fileName options detected)))
  holds : ∃ executable, tree.entry? (root ++ FileTree.steps (fileName options detected)) =
    some (.file (Utf8.encode (typeText layout clean options detected)) executable)

/-- A file that holds the text of a type is read so. -/
theorem Filed.read {tree : FileTree} {detected : DetectedType}
    (filed : Filed layout clean options folder root tree detected) :
    tree.read (Path.join folder (fileName options detected)) =
      .ok (Utf8.encode (typeText layout clean options detected)) := by
  obtain ⟨executable, holds⟩ := filed.holds
  simp [FileTree.read, FileTree.find, filed.leads, FileTree.arrive, holds, Bind.bind, Except.bind,
    pure, Except.pure]

/-- The file of a type that is not written stays as it is. -/
theorem Filed.grows {before after : FileTree} {written : List Location} {detected : DetectedType}
    (filed : Filed layout clean options folder root before detected)
    (grows : FileTree.Grows root written before after)
    (unwritten : root ++ FileTree.steps (fileName options detected) ∉ written) :
    Filed layout clean options folder root after detected := by
  obtain ⟨executable, holds⟩ := filed.holds
  exact ⟨grows.locate filed.leads, executable, grows.unwritten unwritten holds⟩

/-- The last type of every name among some notices is in its file. -/
def AllFiled (layout : Layout) (clean : Bool) (options : OutputOptions) (folder : Text)
    (root : Location) (tree : FileTree) (notices : List Notice) : Prop :=
  ∀ name detected, Notice.lastType? notices name = some detected →
    Filed layout clean options folder root tree detected

/-- The types among notices have proper names, and no two names share a file. -/
structure Apart (options : OutputOptions) (notices : List Notice) : Prop where
  proper : ∀ detected, .type detected ∈ notices → IsScopedName detected.fullName
  flat : options.flat = true → ∀ a b, .type a ∈ notices → .type b ∈ notices →
    a.path true = b.path true → a.fullName = b.fullName

/-- Types whose files are at one place have one name. -/
theorem Apart.fullName_of_steps {notices : List Notice} (apart : Apart options notices)
    {a b : DetectedType} (listedA : .type a ∈ notices) (listedB : .type b ∈ notices)
    (same : FileTree.steps (fileName options a) = FileTree.steps (fileName options b)) :
    a.fullName = b.fullName := by
  have properA := apart.proper a listedA
  have properB := apart.proper b listedB
  have paths := path_of_steps properA properB same
  -- In a single folder the assumption decides; with folders for modules no two names share a path.
  cases flat : options.flat with
  | true =>
    rw [flat] at paths
    exact apart.flat flat a b listedA listedB paths
  | false =>
    rw [flat] at paths
    exact ScopedName.path_injective properA.not_mem_slash properB.not_mem_slash paths

end Emitter

/-- The last type of a name is among the notices. -/
theorem Notice.mem_of_lastType? {notices : List Notice} {name : Text} {detected : DetectedType}
    (last : lastType? notices name = some detected) : .type detected ∈ notices := by
  obtain ⟨notice, member, found⟩ :=
    List.mem_filterMap.mp (List.mem_filter.mp (List.mem_of_getLast? last)).1
  cases notice with
  | type other =>
    obtain rfl : other = detected := by simpa [type?] using found
    exact member
  | opened | topic | closed => cases found

namespace Emitter

variable {layout : Layout} {clean : Bool} {options : OutputOptions} {folder : Text}
  {root : Location}

/-- A notice that is answered without a fault leaves the last type of every name in its file. -/
theorem AllFiled.step {before after : FileTree} {done rest : List Notice} {notice : Notice}
    (filed : AllFiled layout clean options folder root before done)
    (apart : Apart options (done ++ notice :: rest))
    (base : before.base? folder = some root) (unlinked : before.Unlinked root)
    (lossless : before.Lossless root)
    (changes : Changes layout clean options folder root before notice (.ok ()) after) :
    AllFiled layout clean options folder root after (done ++ [notice]) := by
  intro name detected last
  rw [Notice.lastType?_concat] at last
  cases changes with
  | other noType =>
    rw [noType] at last
    exact filed name detected (by simpa using last)
  | wrote writes =>
    -- The new type goes to the place that its path spells, and only what is there changes.
    rename_i newest place
    have listed : Notice.type newest ∈ done ++ .type newest :: rest := by simp
    have proper := apart.proper newest listed
    obtain ⟨steps, names⟩ := steps_fileName options proper
    have nonempty : FileTree.steps (fileName options newest) ≠ [] := by
      rw [steps]
      exact Text.cut_ne_nil _ _
    obtain rfl := place_of_writesFile base unlinked (isInside_fileName options proper)
      (fun step member => (names step (steps ▸ member)).1) nonempty writes
    by_cases same : newest.fullName = name
    · -- It is the last type of its own name.
      obtain rfl : newest = detected := by simpa [Notice.type?, same, Option.filter] using last
      refine ⟨writes.leads, ?_⟩
      exact writes.content.resolve_left (writes.grows.lossless lossless _ writes.below)
    · replace last : Notice.lastType? done name = some detected := by
        simpa [Notice.type?, same, Option.filter] using last
      -- The file of another name is at another place.
      refine (filed name detected last).grows writes.grows fun written => same ?_
      have places : root ++ FileTree.steps (fileName options detected) =
          root ++ FileTree.steps (fileName options newest) := by simpa using written
      have earlier := Notice.mem_of_lastType? last
      rw [← Notice.fullName_of_lastType? last]
      exact (apart.fullName_of_steps (by simp [earlier]) listed
        (List.append_cancel_left places)).symm

/-- When all notices are answered without a fault the last type of every name is in its file. -/
theorem AllFiled.reactions {emitter : Emitter} {world : World} {done notices : List Notice}
    (filed : AllFiled layout clean options folder root world.tree done)
    (split : emitter.IsSplit layout clean options folder)
    (apart : Apart options (done ++ notices)) (base : world.tree.base? folder = some root)
    (unlinked : world.tree.Unlinked root) (lossless : world.tree.Lossless root)
    (notOpened : .opened ∉ notices)
    (succeed : ∀ answer ∈ (reactions notices (emitter, world)).1, answer = .ok ()) :
    AllFiled layout clean options folder root (reactions notices (emitter, world)).2.2.tree
      (done ++ notices) := by
  -- The notices that were answered so far move from the rest to those that are done.
  induction notices generalizing emitter world done with
  | nil => simpa [Emitter.reactions] using filed
  | cons notice rest ih =>
    -- The folder is still there and without links when the next notice comes.
    have inside : ∀ detected, notice = .type detected → IsInside (fileName options detected) :=
      fun detected same => isInside_fileName options (apart.proper detected (by simp [same]))
    obtain ⟨answer, later, after, reacts, stays, changes⟩ :=
      react_changes split base unlinked notice (fun same => notOpened (by simp [same])) inside
    obtain ⟨written, grows⟩ := changes.grows
    simp only [Emitter.reactions, reacts] at succeed ⊢
    obtain rfl := succeed answer (by simp)
    have next := filed.step apart base unlinked lossless changes
    have whole : done ++ notice :: rest = done ++ [notice] ++ rest := by simp
    rw [whole] at apart ⊢
    exact ih next stays apart (grows.base base) (grows.unlinked unlinked)
      (grows.lossless lossless) (fun member => notOpened (by simp [member]))
      fun answer member => succeed answer (by simp [member])

/-- A split output whose folder holds nothing but folders and files, and that is told of types whose
names are joined from identifiers, keeps the last type of every name in the file of its path, if
all goes well and no two of the names have one path in a single folder. -/
theorem split_keeps_last (layout : Layout) (clean : Bool) (options : OutputOptions)
    (world : World) (split : options.split = true)
    (home : world.tree.entry? world.tree.home = some .folder) (emitter : Emitter) (opened : World)
    (opens : react .opened (⟨.idl layout clean, { options }⟩, world) = (.ok (), emitter, opened)) :
    let folder := Target.splitFolder options world.tree
    ∃ root, opened.tree.base? folder = some root ∧
      ∀ notices : List Notice, opened.tree.Unlinked root → opened.tree.Lossless root →
        .opened ∉ notices → Apart options notices →
        (∀ answer ∈ (reactions notices (emitter, opened)).1, answer = .ok ()) →
        ∀ name detected, Notice.lastType? notices name = some detected →
          (reactions notices (emitter, opened)).2.2.tree.read
              (Path.join folder (fileName options detected)) =
            .ok (Utf8.encode (typeText layout clean options detected)) := by
  intro folder
  obtain ⟨isSplit, root, base⟩ := opened_isSplit split home opens
  refine ⟨root, base,
    fun notices unlinked lossless notOpened apart succeed name detected last => ?_⟩
  -- Before any notice there is no last type.
  have none : AllFiled layout clean options folder root opened.tree [] := fun _ _ last => by
    cases last
  exact (none.reactions isSplit apart base unlinked lossless notOpened succeed name detected
    last).read

/-- With a folder for each module the types of two names that differ in a separator alone have files
of their own, and the later of two types of a name is kept. -/
theorem split_keeps_last_of_two_names :
    let options : OutputOptions := { path := some "out".toList, split := true }
    let world : World := { tree := ⟨[([['h']], .folder)], [['h']]⟩ }
    let old : DetectedType := ⟨"a::b".toList, "old".toList, none⟩
    let inner : DetectedType := ⟨"a::b".toList, "inner".toList, none⟩
    let outer : DetectedType := ⟨"a_b".toList, "outer".toList, none⟩
    let notices : List Notice := [.type old, .type outer, .type inner]
    ∃ emitter opened,
      react .opened (⟨.idl {} false, { options }⟩, world) = (.ok (), emitter, opened) ∧
      let after := (reactions notices (emitter, opened)).2.2.tree
      after.read "out/a/b.idl".toList = .ok (Utf8.encode "inner".toList) ∧
      after.read "out/a_b.idl".toList = .ok (Utf8.encode "outer".toList) := by
  intro options world old inner outer notices
  let first := react .opened (⟨.idl {} false, { options }⟩, world)
  -- The run is evaluated once, and what the theorem asks for is read off it.
  have runs : first.1.isOk = true ∧
      first.2.2.tree = ⟨[([['h']], .folder), ([['h'], "out".toList], .folder)], [['h']]⟩ ∧
      ∀ answer ∈ (reactions notices first.2).1, answer.isOk = true := by
    decide +kernel
  obtain ⟨emitter, opened, opens⟩ : ∃ emitter opened, first = (.ok (), emitter, opened) := by
    rcases first with ⟨fault | _, emitter, opened⟩
    · cases runs.1
    · exact ⟨emitter, opened, rfl⟩
  rw [opens] at runs
  obtain ⟨-, tree, succeed⟩ := runs
  obtain ⟨root, -, kept⟩ :=
    split_keeps_last {} false options world rfl (by decide) emitter opened opens
  have folders : ∀ listed ∈ opened.tree.entries, listed.2 = .folder := by
    rw [tree]
    decide
  have proper : ∀ detected, .type detected ∈ notices → IsScopedName detected.fullName := by
    intro detected listed
    have named : detected = old ∨ detected = outer ∨ detected = inner := by
      simpa [notices] using listed
    rcases named with rfl | rfl | rfl
    · exact ⟨[['a'], ['b']], by decide, by decide, rfl⟩
    · exact ⟨["a_b".toList], by decide, by decide, rfl⟩
    · exact ⟨[['a'], ['b']], by decide, by decide, rfl⟩
  have last := kept notices
    (.of_entries fun listed member => by simp [folders listed member])
    (.of_entries fun listed member => by simp [folders listed member])
    (by simp [notices]) ⟨proper, fun flat => by cases flat⟩ fun answer member => by
      have ok := succeed answer member
      cases answer with
      | ok => rfl
      | error fault => cases ok
  exact ⟨emitter, opened, opens, last "a::b".toList inner (by decide),
    last "a_b".toList outer (by decide)⟩

/-- In a single folder the file of a type holds another type, though both were written without a
fault: their names differ in a separator alone. -/
theorem split_flat_loses_type :
    let options : OutputOptions := { path := some "out".toList, split := true, flat := true }
    let world : World := { tree := ⟨[([['h']], .folder)], [['h']]⟩ }
    let outer : DetectedType := ⟨"a_b".toList, "first".toList, none⟩
    let inner : DetectedType := ⟨"a::b".toList, "second".toList, none⟩
    let notices : List Notice := [.type outer, .type inner]
    let first := react .opened (⟨.idl {} false, { options }⟩, world)
    let last := reactions notices first.2
    first.1.isOk = true ∧ last.1.all (·.isOk) = true ∧
      Notice.lastType? notices outer.fullName = some outer ∧ outer.fullName ≠ inner.fullName ∧
      typeText {} false options outer = "first".toList ∧
      last.2.2.tree.entries = [([['h']], .folder), ([['h'], "out".toList], .folder),
        ([['h'], "out".toList, fileName options outer],
          .file (Utf8.encode "second".toList) false)] := by
  decide +kernel

end Emitter
end IdlScout
