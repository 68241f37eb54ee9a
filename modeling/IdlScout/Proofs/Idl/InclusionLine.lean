import IdlScout.Proofs.Idl.Inclusion

/-! Where the inclusion of a type's file stands in the text of another type: the references before
it have four lines each, whatever they are made of. -/

namespace IdlScout

namespace Member

/-- What is behind brackets ends the text. -/
theorem afterBrackets_suffix (depth : Nat) (text : Text) : afterBrackets depth text <:+ text := by
  -- Each character is read and left behind, at whatever depth.
  induction text generalizing depth with
  | nil => exact List.suffix_rfl
  | cons c rest ih =>
    have later (depth : Nat) := (ih depth).trans (List.suffix_cons c rest)
    unfold afterBrackets
    split
    · exact later _
    · split
      · split
        · exact List.suffix_cons c rest
        · exact later _
      · exact later _

/-- What is behind an annotation ends the text. -/
theorem annotationRest_suffix (text : Text) : annotationRest text <:+ text := by
  have named : Text.trimStart (text.dropWhile isAnnotationChar) <:+ text :=
    (List.dropWhile_suffix _).trans (List.dropWhile_suffix _)
  unfold annotationRest
  dsimp only
  split
  · -- Arguments follow the name, and blanks may follow these.
    exact ((List.dropWhile_suffix _).trans (afterBrackets_suffix 0 _)).trans named
  · exact named

/-- What is behind all annotations ends the text. -/
theorem afterAnnotations_suffix (text : Text) : afterAnnotations text <:+ text := by
  fun_induction afterAnnotations text with
  | case1 rest ih => exact (ih.trans (annotationRest_suffix rest)).trans (List.suffix_cons _ _)
  | case2 text => exact List.suffix_rfl

/-- The type of a member has no characters but the member's. -/
theorem typeText_subset (member : Text) : typeText member ⊆ member := by
  have declared : stripAnnotations member ⊆ member := fun c inside =>
    Text.mem_of_mem_trim ((afterAnnotations_suffix _).subset inside)
  unfold typeText
  dsimp only
  split
  · rename_i type name found
    -- The name of the member is behind the last blank, and the type before it.
    obtain ⟨blank, -, whole⟩ := Text.of_breakLast? found
    intro c inside
    have inType : c ∈ type := Text.mem_of_mem_trim inside
    exact declared (by simp [whole, inType])
  · exact declared

/-- What is before the last comma starts the text. -/
theorem beforeLastComma_isPrefix {depth : Nat} {text kept : Text}
    (found : beforeLastComma depth text = some kept) : kept <+: text := by
  induction text generalizing depth kept with
  | nil => cases found
  | cons c rest ih =>
    -- A comma further on is later than this one, and is the one that counts.
    unfold beforeLastComma at found
    dsimp only at found
    split at found
    · rename_i inner later
      obtain rfl : c :: inner = kept := Option.some.inj found
      exact (List.prefix_cons_inj c).mpr (ih later)
    · obtain rfl : [] = kept := by
        split at found
        · exact Option.some.inj found
        · cases found
      exact List.nil_prefix

/-- Arguments without their bound have no characters but those of the arguments. -/
theorem stripBound_subset (arguments : Text) : stripBound arguments ⊆ arguments := by
  intro c inside
  have kept := Text.mem_of_mem_trim inside
  cases found : beforeLastComma 0 arguments with
  | none => simpa [found] using kept
  | some before => exact (beforeLastComma_isPrefix found).subset (by simpa [found] using kept)

/-- The arguments of a sequence are inside it. -/
theorem sequenceArguments?_subset {type arguments : Text}
    (found : sequenceArguments? type = some arguments) : arguments ⊆ type := by
  simp only [sequenceArguments?, Option.bind_eq_bind, Option.bind_eq_some_iff] at found
  obtain ⟨rest, opened, closed⟩ := found
  have behind := List.isPrefixOf?_eq_some_iff_append_eq.mp opened
  have before := List.isSuffixOf?_eq_some_iff_append_eq.mp closed
  intro c inside
  rw [← behind, ← before]
  simp [inside]

/-- The innermost type has no characters but those of the type around it. -/
theorem innermostFrom_subset (fuel : Nat) (type : Text) : innermostFrom fuel type ⊆ type := by
  -- Each sequence that is opened leaves its arguments without their bound.
  induction fuel generalizing type with
  | zero => exact List.Subset.refl _
  | succ fuel ih =>
    unfold innermostFrom
    split
    · rename_i arguments found
      exact fun c inside =>
        sequenceArguments?_subset found (stripBound_subset arguments (ih _ inside))
    · exact List.Subset.refl _

/-- A reference has no characters but those of its member. -/
theorem reference?_subset {member reference : Text} (found : reference? member = some reference) :
    reference ⊆ member := by
  unfold reference? at found
  dsimp only at found
  split at found
  · obtain rfl := Option.some.inj found
    exact fun c inside =>
      typeText_subset member (Text.mem_of_mem_trim (innermostFrom_subset _ _ inside))
  · cases found

end Member

/-- A line with something on it that does not end in a carriage return is the piece between two line
feeds. -/
theorem Text.getElem?_lines {text line : Text} {position : Nat}
    (found : (cut '\n' text)[position]? = some line) (nonempty : line ≠ [])
    (ends : line.getLast? ≠ some '\r') : (lines text)[position]? = some line := by
  -- Pieces and lines are counted alike, and differ only in what is at their ends.
  obtain ⟨ended, last, pieces⟩ := exists_pieces '\n' text
  rw [pieces] at found
  rw [lines_of_pieces pieces]
  by_cases earlier : position < ended.length
  · rw [List.getElem?_append_left earlier] at found
    rw [List.getElem?_append_left (by simpa using earlier), List.getElem?_map, found,
      Option.map_some, dropSuffix_of_last ends]
  · -- The last piece is a line because something is on it.
    rw [List.getElem?_append_right (by omega), List.getElem?_singleton,
      Option.ite_none_right_eq_some] at found
    obtain ⟨atEnd, same⟩ := found
    obtain rfl := Option.some.inj same
    have here : position = ended.length := by omega
    simp [here, nonempty]

/-- Printed lines without line feeds are the first pieces of a text that begins with them. -/
theorem Layout.cut_print_append (layout : Layout) {lines : List Line}
    (single : ∀ line ∈ lines, '\n' ∉ line.text) (rest : Text) :
    Text.cut '\n' (layout.print lines ++ rest) =
      (lines.map fun line => layout.margin line.level ++ line.text) ++ Text.cut '\n' rest := by
  induction lines with
  | nil => rfl
  | cons line more ih =>
    have first : '\n' ∉ layout.margin line.level ++ line.text := by
      simp only [List.mem_append, not_or]
      exact ⟨fun member => absurd (eq_of_mem_margin member) (by decide), single line (by simp)⟩
    have shape : layout.print (line :: more) ++ rest =
        (layout.margin line.level ++ line.text) ++ '\n' :: (layout.print more ++ rest) := by
      simp [print_cons]
    rw [shape, Text.cut_append_mark, Text.cut_of_not_mem first,
      ih fun other listed => single other (by simp [listed])]
    rfl

namespace Declaration

/-- The lines that include the file of a name on one line are on one line each. -/
theorem single_includeLines {name : Text} (single : '\n' ∉ name) (flat : Bool) :
    ∀ line ∈ includeLines flat name, '\n' ∉ line.text := by
  have inPath (flat : Bool) : '\n' ∉ ScopedName.path name flat := by
    intro inside
    rcases ScopedName.of_mem_path inside with below | slash | ⟨segment, listed, inSegment⟩
    · exact absurd below (by decide)
    · exact absurd slash (by decide)
    · refine single ?_
      rw [← ScopedName.ofSegments_segments name]
      exact Text.mem_join_of_mem listed inSegment
  -- A guard is the path of the name in a single folder.
  have inGuard : '\n' ∉ ScopedName.guard name := inPath true
  simp only [includeLines, List.forall_mem_cons, List.mem_append, not_or]
  exact ⟨⟨by decide, inGuard⟩, ⟨by decide, inGuard⟩, ⟨⟨by decide, inPath flat⟩, by decide⟩,
    ⟨by decide, inGuard⟩, by simp⟩

/-- The third line of those of a name is its inclusion, and each name before it has four lines. -/
theorem getElem?_includeLines (flat : Bool) (front back : List Text) (name : Text) :
    ((front ++ name :: back).flatMap (includeLines flat))[4 * front.length + 2]? =
      some ⟨0, "#include \"".toList ++ ScopedName.path name flat ++ ".idl\"".toList⟩ := by
  have before : (front.flatMap (includeLines flat)).length = 4 * front.length := by
    induction front with
    | nil => rfl
    | cons first rest ih =>
      have four : (includeLines flat first).length = 4 := rfl
      rw [List.flatMap_cons, List.length_append, ih, four, List.length_cons]
      omega
  -- Behind the lines of the names before it, the inclusion is the third line of its own.
  have third : 4 * front.length + 2 - 4 * front.length = 2 := by omega
  rw [List.flatMap_append, List.getElem?_append_right (by omega), before, third]
  rfl

/-- The references of a declaration that was read are on one line. -/
theorem single_of_mem_references {text reference : Text} {declaration : Declaration}
    (found : read text = .ok declaration) (listed : reference ∈ declaration.references) :
    '\n' ∉ reference := by
  obtain ⟨member, inMembers, referred⟩ := List.mem_filterMap.mp listed
  obtain ⟨-, -, inside, -, -, fragmented⟩ := of_read found
  rw [fragmented] at inMembers
  obtain ⟨-, -, -, single⟩ := of_mem_fragments inMembers
  exact fun feed => single (Member.reference?_subset referred feed)

end Declaration

/-- In the text of a type the file of each other type that it refers to is included, on the third of
the four lines for that type: as many types stand before it as are referred to earlier. -/
theorem DetectedType.inclusion_line {type : DetectedType} {name : Text} (layout : Layout)
    (found : detect type.fullName type.idl = .ok type) (including : layout.includes = true)
    (word : ∀ segment ∈ ScopedName.segments name, IsWordText segment)
    (refers : name ∈ type.references) (other : name ≠ type.fullName) :
    ∃ position,
      ((type.references.filter (· != type.fullName)).eraseDups)[position]? = some name ∧
      ((Text.lines (type.print layout))[4 * position + 2]?).bind Directive.ofLine? =
        some (.inclusion (ScopedName.fileName layout.flat name)) := by
  -- A text that was not understood refers to nothing.
  have parsed : type.isParsed = true := by
    cases present : type.declaration with
    | some declaration => simp [isParsed, present]
    | none => simp [references, present] at refers
  obtain ⟨declaration, read, present⟩ := read_of_detect found parsed
  have same := fullName_of_detect found present
  have references : type.references = declaration.references := by simp [references, present]
  rw [references] at refers ⊢
  have dependencies : (declaration.references.filter (· != type.fullName)).eraseDups =
      declaration.dependencies := by rw [← same, Declaration.dependencies]
  have listed : name ∈ declaration.dependencies := by
    rw [← dependencies, List.mem_eraseDups, List.mem_filter]
    exact ⟨refers, by simpa using other⟩
  obtain ⟨front, back, split⟩ := List.append_of_mem listed
  refine ⟨front.length, by simp [dependencies, split], ?_⟩
  -- Other names may hold anything but line feeds, so lines can be counted but not read.
  have single : ∀ line ∈ declaration.dependencies.flatMap (Declaration.includeLines layout.flat),
      '\n' ∉ line.text := by
    intro line inLines
    obtain ⟨dependency, inNames, inOwn⟩ := List.mem_flatMap.mp inLines
    exact Declaration.single_includeLines (Declaration.single_of_mem_references read
      (Declaration.of_mem_dependencies inNames).1) layout.flat line inOwn
  have pieces :=
    layout.cut_print_append single (declaration.print { layout with includes := false })
  rw [← Declaration.inclusions, ← declaration.print_eq_inclusions_append including] at pieces
  have third := Declaration.getElem?_includeLines layout.flat front back name
  rw [← split] at third
  have placed : (Text.cut '\n' (declaration.print layout))[4 * front.length + 2]? =
      some (layout.margin 0 ++
        ("#include \"".toList ++ ScopedName.path name layout.flat ++ ".idl\"".toList)) := by
    rw [pieces, List.getElem?_append_left, List.getElem?_map, third, Option.map_some]
    have bound := (List.getElem?_eq_some_iff.mp third).1
    simpa using bound
  have quoted : (layout.margin 0 ++ ("#include \"".toList ++ ScopedName.path name layout.flat ++
      ".idl\"".toList)).getLast? = some '"' := by
    rw [List.getLast?_append, List.getLast?_append]
    rfl
  have printed : type.print layout = declaration.print layout := by simp [print, present]
  rw [printed, Text.getElem?_lines placed (by simp) (by rw [quoted]; decide), Option.bind_some]
  exact Directive.ofLine?_inclusion (layout.margin_blank 0) word layout.flat

end IdlScout
