import IdlScout.Proofs.Detection.Reload
import IdlScout.Proofs.Idl.InclusionLine

/-! The layout of printed text: how it is laid out changes nothing but the spaces before its lines,
and each line has as many as its level asks for. -/

namespace IdlScout

/-- The lines of a text with the spaces before them left out, and what follows the last line
feed. -/
def Text.flushLines (text : Text) : List Text :=
  (cut '\n' text).map (·.dropWhile (· == ' '))

namespace Layout

/-- A margin has as many spaces as its level asks for. -/
theorem length_margin (layout : Layout) (level : Nat) : (layout.margin level).length =
    if layout.indent then (layout.depth + level) * layout.step else 0 := by
  unfold margin
  split <;> simp [Text.times]

/-- All of a margin is spaces. -/
theorem space_of_mem_margin (layout : Layout) (level : Nat) :
    ∀ c ∈ layout.margin level, (c == ' ') = true := fun c member => by
  simp [eq_of_mem_margin member]

/-- Behind a margin a text has the same lines as without it, apart from the spaces before them. -/
theorem flushLines_margin_append (layout : Layout) (level : Nat) (text : Text) :
    Text.flushLines (layout.margin level ++ text) = Text.flushLines text := by
  have noFeed : '\n' ∉ layout.margin level := fun member =>
    absurd (eq_of_mem_margin member) (by decide)
  -- The margin is part of the first line.
  obtain ⟨first, more, pieces⟩ := List.exists_cons_of_ne_nil (Text.cut_ne_nil '\n' text)
  rw [Text.flushLines, Text.flushLines, Text.cut_append noFeed pieces, pieces, List.map_cons,
    List.map_cons, List.dropWhile_append_of_pos (layout.space_of_mem_margin level)]

/-- Apart from the spaces before them, the lines of a printed text are those of the texts that were
printed. -/
theorem flushLines_print (layout : Layout) (lines : List Line) :
    Text.flushLines (layout.print lines) =
      (lines.flatMap fun line => Text.flushLines line.text) ++ [[]] := by
  induction lines with
  | nil => rfl
  | cons line rest ih =>
    -- Each line is cut off at its line feed, and its margin is made of spaces only.
    have split :
        Text.flushLines (layout.margin line.level ++ line.text ++ '\n' :: layout.print rest) =
        Text.flushLines (layout.margin line.level ++ line.text) ++
          Text.flushLines (layout.print rest) := by
      simp only [Text.flushLines, Text.cut_append_mark, List.map_append]
    rw [print_cons, ← List.append_assoc, split, flushLines_margin_append, ih, List.flatMap_cons,
      List.append_assoc]

end Layout

/-- A line that stays one line when it is printed, and does not begin with a space. -/
structure Line.IsFlush (line : Line) : Prop where
  single : '\n' ∉ line.text
  starts : ∀ c ∈ line.text.head?, (c == ' ') = false

namespace Layout

/-- Of a flush line that is printed, the spaces before it are its margin. -/
theorem takeWhile_margin_append (layout : Layout) {line : Line} (flush : line.IsFlush) :
    (layout.margin line.level ++ line.text).takeWhile (· == ' ') = layout.margin line.level := by
  rw [List.takeWhile_append_of_pos (layout.space_of_mem_margin line.level)]
  -- The text of a flush line starts with no space, so the run of spaces ends with the margin.
  cases shape : line.text with
  | nil => simp
  | cons c rest =>
    have other := flush.starts c (by simp [shape])
    simp [other]

/-- Of a flush line that is printed, what follows the spaces before it is its text. -/
theorem dropWhile_margin_append (layout : Layout) {line : Line} (flush : line.IsFlush) :
    (layout.margin line.level ++ line.text).dropWhile (· == ' ') = line.text := by
  rw [List.dropWhile_append_of_pos (layout.space_of_mem_margin line.level)]
  -- The same character ends the spaces that are skipped.
  cases shape : line.text with
  | nil => rfl
  | cons c rest =>
    have other := flush.starts c (by simp [shape])
    simp [other]

end Layout

namespace Declaration

/-- The lines of a declaration that was read are flush, if its name is on one line. -/
theorem isFlush_of_read {text : Text} {declaration : Declaration}
    (found : read text = .ok declaration) (named : '\n' ∉ declaration.fullName) (layout : Layout) :
    ∀ line ∈ declaration.lines layout, line.IsFlush := by
  have segment : ∀ part ∈ declaration.modules ++ [declaration.name], '\n' ∉ part :=
    fun part listed inside => named (Text.mem_join_of_mem listed inside)
  obtain ⟨-, -, inside, -, -, fragmented⟩ := of_read found
  rw [lines_eq, structLines_eq]
  simp only [List.forall_mem_append]
  -- Inclusions and opened modules, the head of the structure, its members, its end, closed modules.
  refine ⟨⟨fun line listed => ?_, ⟨fun line listed => ?_, fun line listed => ?_⟩,
    fun line listed => ?_⟩, fun line listed => ?_⟩
  · rcases List.mem_append.mp listed with directive | opened
    · split at directive
      · obtain ⟨name, dependency, inIncludes⟩ := List.mem_flatMap.mp directive
        have single := single_of_mem_references found (of_mem_dependencies dependency).1
        refine ⟨single_includeLines single layout.flat line inIncludes, ?_⟩
        -- All four begin with a number sign.
        simp only [includeLines, List.mem_cons, List.not_mem_nil, or_false] at inIncludes
        rcases inIncludes with rfl | rfl | rfl | rfl <;> simp
      · simp at directive
    · obtain ⟨level, within, rfl⟩ := List.mem_mapIdx.mp opened
      have outer := segment declaration.modules[level] (by simp)
      exact ⟨by simp [opening, outer], by simp [opening]⟩
  · obtain rfl := List.mem_singleton.mp listed
    have name := segment declaration.name (by simp)
    exact ⟨by simp [name], by simp⟩
  · obtain ⟨renamed, inMembers, rfl⟩ := List.mem_map.mp listed
    obtain ⟨member, original, rfl⟩ := List.mem_map.mp inMembers
    rw [fragmented] at original
    obtain ⟨nonempty, trimmed, -, single⟩ := of_mem_fragments original
    -- Renaming touches the end of a member only.
    have head := Member.head?_renameReserved trimmed
    have some : Member.renameReserved member ≠ [] := fun empty => by
      rw [empty, List.head?_nil, eq_comm, List.head?_eq_none_iff] at head
      exact nonempty head
    refine ⟨by simpa using Member.single_renameReserved single, fun c first => ?_⟩
    rw [List.head?_append_of_ne_nil _ some, head] at first
    -- A member is trimmed, and a space is a blank.
    have visible := trimmed.1 c first
    by_contra space
    obtain rfl : c = ' ' := by simpa using space
    exact absurd visible (by decide)
  · obtain rfl := List.mem_singleton.mp listed
    have brace : '\n' ∉ "\x7d;".toList := by decide
    exact ⟨brace, by simp⟩
  · obtain ⟨level, within, rfl⟩ := List.mem_mapIdx.mp (List.mem_reverse.mp listed)
    have outer := segment declaration.modules[level] (by simp)
    exact ⟨by simp [closing, outer], by simp [closing]⟩

/-- The levels of the lines of a declaration in its modules: four lines for each type that is
included stand at no level, the lines of a module at its place from the outermost on, the structure
one level further in than all of them, and its members one level further in again. -/
def levels (included modules members : Nat) : List Nat :=
  List.replicate (4 * included) 0 ++ List.range modules ++
    ([modules] ++ List.replicate members (modules + 1) ++ [modules]) ++ (List.range modules).reverse

/-- Every line stands at its level. -/
theorem map_level_lines (declaration : Declaration) (layout : Layout) :
    (declaration.lines layout).map Line.level =
      levels (if layout.includes then declaration.dependencies.length else 0)
        declaration.modules.length declaration.members.length := by
  -- The four lines of each inclusion stand at level zero.
  have inclusions (names : List Text) : (names.flatMap (includeLines layout.flat)).map Line.level =
      List.replicate (4 * names.length) 0 := by
    induction names with
    | nil => rfl
    | cons name rest ih =>
      have four : (includeLines layout.flat name).map Line.level = List.replicate 4 0 := rfl
      rw [List.flatMap_cons, List.map_append, ih, four, List.replicate_append_replicate,
        List.length_cons]
      congr 1
      omega
  -- The lines of modules stand at their places, opened in order and closed in reverse.
  have atPlace (line : Nat → Text → Line)
      (placed : ∀ level outer, (line level outer).level = level) :
      (declaration.modules.mapIdx line).map Line.level = List.range declaration.modules.length :=
    List.ext_getElem (by simp) fun i inLines inRange => by simp [placed]
  have members : (declaration.structLines declaration.modules.length).map Line.level =
      [declaration.modules.length] ++
        List.replicate declaration.members.length (declaration.modules.length + 1) ++
        [declaration.modules.length] := by
    simp [structLines, Function.comp_def]
  rw [lines_eq, List.map_append, List.map_append, members, passedLines, List.map_append,
    closingLines, List.map_reverse, atPlace opening fun _ _ => rfl, atPlace closing fun _ _ => rfl,
    levels]
  -- The inclusions come first, or not at all.
  cases layout.includes
  · simp
  · simp [inclusions]

/-- The texts of all lines: the inclusions, the modules from the outermost on, the structure with
its members, and the ends of the modules from the innermost on. -/
theorem map_text_lines (declaration : Declaration) (layout : Layout) :
    (declaration.lines layout).map Line.text =
      (if layout.includes then declaration.dependencies else []).flatMap (fun name =>
          ["#ifndef ".toList ++ ScopedName.guard name, "#define ".toList ++ ScopedName.guard name,
            "#include \"".toList ++ ScopedName.path name layout.flat ++ ".idl\"".toList,
            "#endif  // ".toList ++ ScopedName.guard name]) ++
        declaration.modules.map (fun outer => "module ".toList ++ outer ++ " \x7b".toList) ++
        (["struct ".toList ++ declaration.name ++ " \x7b".toList] ++
          declaration.members.map (fun member => Member.renameReserved member ++ [';']) ++
          ["\x7d;".toList]) ++
        (declaration.modules.map fun outer => "\x7d; // module ".toList ++ outer).reverse := by
  -- The text of a line does not depend on its place.
  have unplaced (line : Nat → Text → Line) (text : Text → Text)
      (same : ∀ level outer, (line level outer).text = text outer) :
      (declaration.modules.mapIdx line).map Line.text = declaration.modules.map text :=
    List.ext_getElem (by simp) fun i inLines inTexts => by simp [same]
  have opened := unplaced opening (fun outer => "module ".toList ++ outer ++ " \x7b".toList)
    fun _ _ => rfl
  have closed := unplaced closing (fun outer => "\x7d; // module ".toList ++ outer) fun _ _ => rfl
  have own : (declaration.structLines declaration.modules.length).map Line.text =
      ["struct ".toList ++ declaration.name ++ " \x7b".toList] ++
        declaration.members.map (fun member => Member.renameReserved member ++ [';']) ++
        ["\x7d;".toList] := by
    simp only [structLines, List.map_append, List.map_cons, List.map_nil, List.map_map,
      Function.comp_def]
  rw [lines_eq, List.map_append, List.map_append, passedLines, List.map_append, closingLines,
    List.map_reverse, opened, closed, own]
  cases layout.includes
  · rfl
  · simp only [if_true, List.map_flatMap, includeLines, List.map_cons, List.map_nil]

end Declaration

/-- However a type is printed, its lines are the same apart from the spaces before them, if the same
types are included from the same files. And if a type was understood and its name is on one line,
its text is four lines for each other type that it refers to, if these are included, two for each
module, one for each member and two more, each ended by a line feed and behind as many spaces as its
level asks for. -/
theorem DetectedType.print_indents {fullName idl : Text} {type : DetectedType}
    (found : detect fullName idl = .ok type) :
    (∀ layout other : Layout, layout.includes = other.includes → layout.flat = other.flat →
      Text.flushLines (type.print layout) = Text.flushLines (type.print other)) ∧
    (type.isParsed = true → '\n' ∉ fullName → ∀ layout : Layout,
      let included :=
        if layout.includes then (type.references.filter (· != fullName)).eraseDups else []
      ∃ rows : List Text, Text.cut '\n' (type.print layout) = rows ++ [[]] ∧
        rows.length = 4 * included.length + 2 * type.modules.length + type.members.length + 2 ∧
        rows.map (fun row => (row.takeWhile (· == ' ')).length) =
          (Declaration.levels included.length type.modules.length type.members.length).map
            (fun level => if layout.indent then (layout.depth + level) * layout.step else 0) ∧
        rows.map (·.dropWhile (· == ' ')) =
          included.flatMap (fun name =>
            ["#ifndef ".toList ++ ScopedName.guard name, "#define ".toList ++ ScopedName.guard name,
              "#include \"".toList ++ ScopedName.path name layout.flat ++ ".idl\"".toList,
              "#endif  // ".toList ++ ScopedName.guard name]) ++
          type.modules.map (fun outer => "module ".toList ++ outer ++ " \x7b".toList) ++
          (["struct ".toList ++ type.name ++ " \x7b".toList] ++
            type.members.map (fun member => Member.renameReserved member ++ [';']) ++
            ["\x7d;".toList]) ++
          (type.modules.map fun outer => "\x7d; // module ".toList ++ outer).reverse) := by
  constructor
  · intro layout other sameIncludes sameFlat
    rw [print, print]
    cases type.declaration with
    | none => rfl
    | some declaration =>
      -- The lines depend on what is included alone.
      have lines : declaration.lines layout = declaration.lines other := by
        simp only [Declaration.lines, sameIncludes, sameFlat]
      simp only [Declaration.print, Layout.flushLines_print, lines]
  · intro parsed named layout included
    obtain ⟨declaration, read, present⟩ := read_of_detect found parsed
    have sameName : declaration.fullName = fullName :=
      (fullName_of_detect found present).trans (detect_keeps found).1
    -- A line that is flush shows its margin and its text again when the printed text is cut.
    have flush := Declaration.isFlush_of_read read (sameName ▸ named) layout
    have dependencies : included = if layout.includes then declaration.dependencies else [] := by
      simp only [included, references, present, Declaration.dependencies, sameName]
    have count : included.length =
        if layout.includes then declaration.dependencies.length else 0 := by
      rw [dependencies]
      split <;> rfl
    have levels := declaration.map_level_lines layout
    have texts := declaration.map_text_lines layout
    rw [← count] at levels
    rw [← dependencies] at texts
    have pieces := layout.cut_print_append (fun line listed => (flush line listed).single) []
    rw [List.append_nil] at pieces
    simp only [print, modules, members, name, present]
    refine ⟨_, pieces, ?_, ?_, ?_⟩
    · -- There are as many lines as levels.
      have length := congrArg List.length levels
      simp only [List.length_map, Declaration.levels, List.length_append, List.length_replicate,
        List.length_range, List.length_reverse, List.length_singleton] at length ⊢
      omega
    · rw [← levels, List.map_map, List.map_map]
      refine List.map_congr_left fun line listed => ?_
      rw [Function.comp_apply, Function.comp_apply,
        layout.takeWhile_margin_append (flush line listed),
        layout.length_margin]
    · rw [← texts, List.map_map]
      exact List.map_congr_left fun line listed =>
        layout.dropWhile_margin_append (flush line listed)

/-- A structure in a module with an inclusion before it: its ten lines at a depth of one level of
three spaces, and the same lines without any. -/
theorem DetectedType.print_indents_inside_module :
    let idl := "struct A::B \x7b long sequence; C::D d; \x7d;".toList
    let layout : Layout := { depth := 1, step := 3, includes := true }
    ∃ type rows, detect "A::B".toList idl = .ok type ∧ type.isParsed = true ∧
      '\n' ∉ "A::B".toList ∧
      Text.flushLines (type.print layout) =
        Text.flushLines (type.print { indent := false, includes := true }) ∧
      Text.cut '\n' (type.print layout) = rows ++ [[]] ∧ rows.length = 10 ∧
      rows.map (fun row => (row.takeWhile (· == ' ')).length) = [3, 3, 3, 3, 3, 6, 9, 9, 6, 3] := by
  intro idl layout
  let type : DetectedType := ⟨"A::B".toList, idl,
    some ⟨[], ["A".toList], "B".toList, ["long sequence".toList, "C::D d".toList]⟩⟩
  have found : detect "A::B".toList idl = .ok type := by decide +kernel
  have single : '\n' ∉ "A::B".toList := by decide
  obtain ⟨alike, laidOut⟩ := print_indents found
  obtain ⟨rows, pieces, count, margins, -⟩ := laidOut rfl single layout
  have included : (type.references.filter (· != "A::B".toList)).eraseDups = ["C::D".toList] := by
    decide +kernel
  simp only [layout, included, if_true] at count margins
  exact ⟨type, rows, found, rfl, single, alike layout _ rfl rfl, pieces, count, margins⟩

end IdlScout
