import IdlScout.Detection.Type
import IdlScout.Proofs.Idl.Printing

/-! A declaration that is printed reads back, whatever the layout. -/

namespace IdlScout
namespace Member

/-- A member that reads as one when a semicolon and a line feed are printed behind it. -/
structure IsPlain (member : Text) : Prop where
  nonempty : member ≠ []
  trimmed : IsTrimmed member
  plain : Text.Lacks member [';', '\n', '{', '}']
  unbounded : ¬ Declaration.unboundedSentinel <:+: member

/-- A member is renamed to its type and its reserved name with an underscore, or stays. -/
theorem renameReserved_cases (member : Text) :
    renameReserved member = member ∨ ∃ type c name, isBlank c = true ∧
      member = type ++ c :: name ∧ name ∈ reservedNames ∧
      renameReserved member = Text.trimEnd type ++ ' ' :: (name ++ ['_']) := by
  -- A member without a blank or with another name is left as it is.
  unfold renameReserved
  split
  · rename_i type name found
    split
    · rename_i reserved
      obtain ⟨c, blank, whole⟩ := Text.of_breakLast? found
      exact .inr ⟨type, c, name, blank, whole, by simpa using reserved, by simp⟩
    · exact .inl rfl
  · exact .inl rfl

/-- A member begins with the same character when it is renamed. -/
theorem head?_renameReserved {member : Text} (trimmed : IsTrimmed member) :
    (renameReserved member).head? = member.head? := by
  rcases renameReserved_cases member with same | ⟨type, c, name, blank, whole, -, renamed⟩
  · rw [same]
  · -- No blank is at the start of the member, so its type is not empty.
    have started : type ≠ [] := by
      rintro rfl
      have visible := trimmed.1 c (by simp [whole])
      simp [visible] at blank
    have head : ∀ d ∈ type.head?, isBlank d = false := fun d first =>
      trimmed.1 d (by rw [whole, List.head?_append_of_ne_nil _ started]; exact first)
    have left : Text.trimEnd type ≠ [] := Text.trimEnd_ne_nil started head
    have same : (Text.trimEnd type).head? = type.head? := by
      obtain ⟨gap, rest⟩ := Text.trimEnd_isPrefix type
      conv_rhs => rw [← rest, List.head?_append_of_ne_nil _ left]
    rw [renamed, List.head?_append_of_ne_nil _ left, whole, List.head?_append_of_ne_nil _ started,
      same]

/-- A member on one line stays on one line when it is renamed. -/
theorem single_renameReserved {member : Text} (single : '\n' ∉ member) :
    '\n' ∉ renameReserved member := by
  rcases renameReserved_cases member with same | ⟨type, c, name, -, whole, reserved, renamed⟩
  · rwa [same]
  · -- No reserved name has a line ending, and trimming adds none.
    have ofName : ∀ name ∈ reservedNames, '\n' ∉ name ++ ['_'] := by decide
    have ofType : '\n' ∉ Text.trimEnd type := fun inside =>
      single (by simp [whole, (Text.trimEnd_isPrefix type).subset inside])
    rw [renamed, List.mem_append, List.mem_cons, not_or, not_or]
    exact ⟨ofType, by decide, ofName name reserved⟩

/-- A plain member stays plain when it is renamed. -/
theorem IsPlain.renameReserved {member : Text} (plain : IsPlain member) :
    IsPlain (renameReserved member) := by
  rcases renameReserved_cases member with same | ⟨type, c, name, blank, whole, reserved, renamed⟩
  · rwa [same]
  rw [renamed]
  -- Neither reserved name, with the underscore, holds anything that matters to reading.
  have ofName : ∀ name ∈ reservedNames, Text.Lacks (name ++ ['_']) [';', '\n', '{', '}'] ∧
      ¬ Declaration.unboundedSentinel <:+: name ++ ['_'] := by decide
  have kept := Text.trimEnd_isPrefix type
  -- The parts of being plain in order: not empty, trimmed, without marks and without the bound.
  refine ⟨by simp, ⟨fun d first => ?_, fun d last => ?_⟩, ?_, fun inside => ?_⟩
  · rw [← renamed, head?_renameReserved plain.trimmed] at first
    exact plain.trimmed.1 d first
  · have split : Text.trimEnd type ++ ' ' :: (name ++ ['_']) =
        (Text.trimEnd type ++ ' ' :: name) ++ ['_'] := by simp
    rw [split, List.getLast?_concat] at last
    obtain rfl : '_' = d := by simpa using last
    decide
  · have space : Text.Lacks [' '] [';', '\n', '{', '}'] := by decide
    refine Text.lacks_append.mpr ⟨fun d inType => plain.plain d ?_,
      Text.lacks_append.mpr ⟨space, (ofName name reserved).1⟩⟩
    simp [whole, kept.subset inType]
  · rcases Text.infix_of_infix_append_cons (by decide) inside with inType | inName
    · have inMember : type <:+: member := ⟨[], c :: name, by simp [whole]⟩
      exact plain.unbounded ((inType.trans kept.isInfix).trans inMember)
    · exact (ofName name reserved).2 inName

end Member

namespace Declaration

/-- The members of a declaration that was read are trimmed, and in one piece and on one line. -/
theorem isPlain_of_read {text member : Text} {declaration : Declaration}
    (found : read text = .ok declaration) (listed : member ∈ declaration.members)
    (plain : '{' ∉ member ∧ '}' ∉ member ∧ ¬ unboundedSentinel <:+: member) :
    Member.IsPlain member := by
  obtain ⟨-, -, inside, -, -, fragmented⟩ := of_read found
  rw [fragmented] at listed
  obtain ⟨nonempty, trimmed, absent, single⟩ := of_mem_fragments listed
  refine ⟨nonempty, trimmed, fun c member => ?_, plain.2.2⟩
  -- Two of the four marks end fragments or lines; the other two are excluded by assumption.
  simp only [List.mem_cons, List.not_mem_nil, or_false]
  rintro (rfl | rfl | rfl | rfl)
  · exact absent member
  · exact single member
  · exact plain.1 member
  · exact plain.2.1 member

/-- The lines of members, each with its semicolon. -/
def memberLines (level : Nat) (members : List Text) : List Line :=
  members.map fun member => ⟨level, member ++ [';']⟩

/-- Plain members are read back from their printed lines. -/
theorem fragments_memberLines (layout : Layout) (level : Nat) {members : List Text}
    (plain : ∀ member ∈ members, Member.IsPlain member) {gap : Text} (blank : IsBlankText gap) :
    fragments ';' (layout.print (memberLines level members) ++ gap) = members := by
  -- By induction on the members, each being the fragment up to its semicolon.
  induction members with
  | nil => exact fragments_of_blank (by decide) blank
  | cons member rest ih =>
    have first := plain member (by simp)
    have later := ih fun other listed => plain other (by simp [listed])
    have same := Text.trim_of_isTrimmed first.trimmed
    have one : fragments ';' (member ++ []) = [Text.trim member] :=
      fragments_of_not_mem (by decide) (by simp [IsBlankText])
        (fun inside => first.plain _ inside (by simp))
        (fun inside => first.plain _ inside (by simp)) (by rw [same]; exact first.nonempty)
    have shape : layout.print (memberLines level (member :: rest)) ++ gap =
        layout.margin level ++ ((member ++ []) ++ ';' ::
          (['\n'] ++ (layout.print (memberLines level rest) ++ gap))) := by
      simp [memberLines, Layout.print_cons]
    rw [shape, fragments_blank_append (by decide) (layout.margin_blank level),
      fragments_append_mark (by decide), one, same,
      fragments_blank_append (by decide) (by decide), later]
    rfl

/-- A declaration of identifiers that are no keywords, plain members and references to identifiers,
which may start with a separator. -/
structure IsPlain (declaration : Declaration) : Prop where
  named : ∀ segment ∈ declaration.modules ++ [declaration.name],
    IsIdentifier segment ∧ segment ∉ keywords
  members : ∀ member ∈ declaration.members, Member.IsPlain member
  references : ∀ reference ∈ declaration.references, ∀ segment ∈ ScopedName.segments reference,
    IsWordText segment

/-- The lines before the structure. -/
def passedLines (declaration : Declaration) (layout : Layout) : List Line :=
  (if layout.includes then
    declaration.dependencies.flatMap (includeLines layout.flat)
  else []) ++ declaration.modules.mapIdx opening

/-- The lines after the structure. -/
def closingLines (declaration : Declaration) : List Line :=
  (declaration.modules.mapIdx closing).reverse

/-- The structure stands between the lines that open its modules and those that close them. -/
theorem lines_eq (declaration : Declaration) (layout : Layout) :
    declaration.lines layout =
      declaration.passedLines layout ++ declaration.structLines declaration.modules.length ++
        declaration.closingLines := by
  simp [lines, nest_eq, passedLines, closingLines]

/-- Every dependency is a reference, and so a scoped name. -/
theorem of_mem_dependencies {declaration : Declaration} {name : Text}
    (listed : name ∈ declaration.dependencies) :
    name ∈ declaration.references ∧ ScopedName.isScoped name = true := by
  have referred : name ∈ declaration.references :=
    List.mem_of_mem_filter (List.mem_eraseDups.mp listed)
  refine ⟨referred, ?_⟩
  obtain ⟨member, -, found⟩ := List.mem_filterMap.mp referred
  -- A type is only a reference if it is a scoped name.
  simp only [Member.reference?] at found
  split at found
  · rename_i isScoped
    obtain rfl := Option.some.inj found
    exact isScoped
  · cases found

/-- Reading passes over all lines before the structure. -/
theorem IsPlain.passed {declaration : Declaration} (plain : declaration.IsPlain)
    (layout : Layout) : ∀ line ∈ declaration.passedLines layout, line.IsPassed := by
  intro line listed
  -- The passed lines are the directives, if there are any, and the openings of the modules.
  rcases List.mem_append.mp listed with directive | opened
  · split at directive
    · obtain ⟨name, dependency, inIncludes⟩ := List.mem_flatMap.mp directive
      obtain ⟨referred, qualified⟩ := of_mem_dependencies dependency
      exact includeLines_isPassed qualified (plain.references name referred) _ line inIncludes
    · simp at directive
  · obtain ⟨level, within, rfl⟩ := List.mem_mapIdx.mp opened
    obtain ⟨identifier, unlisted⟩ := plain.named declaration.modules[level] (by simp)
    exact opening_isPassed identifier unlisted level

/-- The line of a plain member is stable. -/
theorem memberLine_isStable {member : Text} (plain : Member.IsPlain member) (level : Nat) :
    Line.IsStable ⟨level, member ++ [';']⟩ := by
  refine ⟨fun inside => ?_, by simp, dropUnbounded_of_not_infix fun inside => ?_⟩
  · -- The semicolon that is added is neither a line ending nor part of a bound.
    have inMember : '\n' ∈ member := by simpa using inside
    exact plain.plain _ inMember (by simp)
  · rcases Text.infix_of_infix_append_cons (by decide) inside with inMember | inNothing
    · exact plain.unbounded inMember
    · exact absurd inNothing (by decide)

/-- The structure, its members read as they are renamed. -/
theorem structLines_eq (declaration : Declaration) (level : Nat) :
    declaration.structLines level =
      [⟨level, "struct ".toList ++ declaration.name ++ " \x7b".toList⟩] ++
        memberLines (level + 1) (declaration.members.map Member.renameReserved) ++
        [⟨level, "\x7d;".toList⟩] := by
  simp [structLines, memberLines, Function.comp_def]

/-- All lines of a plain declaration are stable. -/
theorem IsPlain.stable {declaration : Declaration} (plain : declaration.IsPlain)
    (layout : Layout) : ∀ line ∈ declaration.lines layout, line.IsStable := by
  have name := (plain.named declaration.name (by simp)).1
  rw [lines_eq, structLines_eq]
  -- The lines by their kinds: passed, the opening one, members, the closing one, ends of modules.
  simp only [List.forall_mem_append]
  refine ⟨⟨fun line listed => .of_plain (plain.passed layout line listed).plain,
    ⟨fun line listed => ?_, fun line listed => ?_⟩, fun line listed => ?_⟩,
    fun line listed => ?_⟩
  · obtain rfl := List.mem_singleton.mp listed
    refine .of_plain ?_
    simp only [Text.lacks_append]
    exact ⟨⟨by decide, fun c member => Line.not_mem_endings (name.word c member)⟩, by decide⟩
  · obtain ⟨renamed, inMembers, rfl⟩ := List.mem_map.mp listed
    obtain ⟨member, original, rfl⟩ := List.mem_map.mp inMembers
    exact memberLine_isStable (plain.members member original).renameReserved _
  · obtain rfl := List.mem_singleton.mp listed
    have brace : Text.Lacks "\x7d;".toList Line.endings := by decide
    exact .of_plain brace
  · obtain ⟨level, within, rfl⟩ := List.mem_mapIdx.mp (List.mem_reverse.mp listed)
    have outer := (plain.named declaration.modules[level] (by simp)).1
    refine .of_plain ?_
    simp only [closing, Text.lacks_append]
    exact ⟨by decide, fun c member => Line.not_mem_endings (outer.word c member)⟩

/-- The text printed before the keyword. -/
def printedLeading (declaration : Declaration) (layout : Layout) : Text :=
  layout.print (declaration.passedLines layout) ++ layout.margin declaration.modules.length

/-- The text printed between the braces. -/
def printedInside (declaration : Declaration) (layout : Layout) : Text :=
  let level := declaration.modules.length
  '\n' :: (layout.print
    (memberLines (level + 1) (declaration.members.map Member.renameReserved)) ++
    layout.margin level)

/-- What is printed is one structure with its parts in place. -/
theorem print_eq (declaration : Declaration) (layout : Layout) :
    declaration.print layout =
      declaration.printedLeading layout ++ ("struct".toList ++ ([' '] ++
        ((declaration.name ++ [' ']) ++ '\x7b' :: (declaration.printedInside layout ++
          '\x7d' :: ';' :: ('\n' :: layout.print declaration.closingLines))))) := by
  rw [print, lines_eq, structLines_eq]
  simp [Layout.print_append, Layout.print_cons, printedLeading, printedInside]

/-- The members are printed line by line, each as it is renamed. -/
theorem print_eq_around_members (declaration : Declaration) (layout : Layout) :
    declaration.print layout =
      layout.print (declaration.passedLines layout) ++
        (layout.margin declaration.modules.length ++ "struct ".toList ++ declaration.name ++
          " \x7b\n".toList) ++
        ((declaration.members.map Member.renameReserved).flatMap fun text =>
          layout.margin (declaration.modules.length + 1) ++ text ++ ";\n".toList) ++
        (layout.margin declaration.modules.length ++ "\x7d;\n".toList) ++
        layout.print declaration.closingLines := by
  rw [print, lines_eq, structLines_eq]
  simp [Layout.print, memberLines, List.flatMap_map]

/-- No keyword stands in the text before the structure. -/
theorem IsPlain.keywordless {declaration : Declaration} (plain : declaration.IsPlain)
    (layout : Layout) : Keywordless false (declaration.printedLeading layout) := by
  have passed := layout.keywordless_print fun line listed =>
    (plain.passed layout line listed).keywordless
  exact passed.append (layout.endsInBlank_print _).outsideWord (.of_blank (layout.margin_blank _))

/-- No brace closes the structure before its end. -/
theorem IsPlain.unclosed {declaration : Declaration} (plain : declaration.IsPlain)
    (layout : Layout) : '\x7d' ∉ declaration.printedInside layout := by
  -- Margins are spaces or tabs, and a member that is plain has no brace.
  have outside : ∀ level, '\x7d' ∉ layout.margin level := fun level member =>
    absurd (Layout.eq_of_mem_margin member) (by decide)
  simp only [printedInside, Layout.print, memberLines, List.mem_cons, List.mem_append,
    List.mem_flatMap, List.mem_map, not_or, not_exists, not_and]
  refine ⟨by decide, ?_, outside _⟩
  rintro line ⟨_, ⟨member, original, rfl⟩, rfl⟩
  have absent : '\x7d' ∉ Member.renameReserved member := fun inside =>
    (plain.members member original).renameReserved.plain _ inside (by simp)
  exact ⟨⟨outside _, by simpa using absent⟩, by decide, by simp⟩

/-- A plain declaration that is printed reads as a structure of its name and renamed members,
outside any module. -/
theorem IsPlain.read_print {declaration : Declaration} (plain : declaration.IsPlain)
    (layout : Layout) :
    read (declaration.print layout) = .ok {
      annotations := fragments '@' (declaration.printedLeading layout)
      modules := []
      name := declaration.name
      members := declaration.members.map Member.renameReserved } := by
  obtain ⟨identifier, -⟩ := plain.named declaration.name (by simp)
  have parts : dropUnbounded (declaration.print layout) = _ :=
    (layout.dropUnbounded_print (plain.stable layout)).trans (declaration.print_eq layout)
  have ends : EndsInBlank (declaration.printedLeading layout) :=
    (layout.endsInBlank_print _).append (.of_blank (layout.margin_blank _))
  have space : IsBlankText [' '] := by decide
  have starts : ∀ c ∈ (declaration.name ++ [' '] ++ ['{']).head?, isBlank c = false := by
    intro c first
    rw [List.append_assoc, List.head?_append_of_ne_nil _ identifier.nonempty] at first
    exact identifier.isTrimmed.1 c first
  have unopened : '{' ∉ declaration.name ++ [' '] := by
    simpa using identifier.not_mem (c := '{') (by decide)
  -- A single segment is a name without a base clause.
  have declares : stripBase (Text.trim (declaration.name ++ [' '])) =
      ScopedName.ofSegments ([] ++ [declaration.name]) := by
    rw [Text.trim_append_right space, Text.trim_of_isTrimmed identifier.isTrimmed]
    exact stripBase_ofSegments (List.cons_ne_nil declaration.name [])
      (by simpa using identifier.not_mem (c := ':') (by decide))
  have members : fragments ';' (declaration.printedInside layout) =
      declaration.members.map Member.renameReserved := by
    have renamed : ∀ member ∈ declaration.members.map Member.renameReserved,
        Member.IsPlain member := by
      intro member listed
      obtain ⟨original, inMembers, rfl⟩ := List.mem_map.mp listed
      exact (plain.members original inMembers).renameReserved
    have feed : IsBlankText ['\n'] := by decide
    exact (fragments_blank_append (by decide) feed _).trans
      (fragments_memberLines layout _ renamed (layout.margin_blank _))
  rw [read_of_parts parts (plain.keywordless layout) ends.outsideWord (by simp [keywords])
    (by simp) space starts unopened declares (by simpa using identifier) (plain.unclosed layout),
    members]

/-- The lines printed are directives, modules opened inwards, the structure, and modules closed
outwards. -/
theorem IsPlain.lines_print {declaration : Declaration} (plain : declaration.IsPlain)
    (layout : Layout) :
    ∃ directives : List Text,
      (∀ line ∈ directives, ∃ text, line = layout.margin 0 ++ '#' :: text) ∧
      (layout.includes = false → directives = []) ∧
      Text.lines (declaration.print layout) =
        directives ++
        (declaration.modules.mapIdx fun level outer =>
          layout.margin level ++ "module ".toList ++ outer ++ " \x7b".toList) ++
        ([layout.margin declaration.modules.length ++ "struct ".toList ++ declaration.name ++
            " \x7b".toList] ++
          (declaration.members.map fun member =>
            layout.margin (declaration.modules.length + 1) ++ Member.renameReserved member ++
              [';']) ++
          [layout.margin declaration.modules.length ++ "\x7d;".toList]) ++
        (declaration.modules.mapIdx fun level outer =>
          layout.margin level ++ "\x7d; // module ".toList ++ outer).reverse := by
  -- Every kind of line is printed behind its margin, so that the lines are read off one by one.
  refine ⟨(if layout.includes then declaration.dependencies.flatMap (includeLines layout.flat)
    else []).map fun line => layout.margin line.level ++ line.text, ?_, ?_, ?_⟩
  · intro line listed
    obtain ⟨printed, directive, rfl⟩ := List.mem_map.mp listed
    split at directive
    · obtain ⟨name, -, inIncludes⟩ := List.mem_flatMap.mp directive
      simp only [includeLines, List.mem_cons, List.not_mem_nil, or_false] at inIncludes
      rcases inIncludes with rfl | rfl | rfl | rfl <;> exact ⟨_, rfl⟩
    · simp at directive
  · intro none
    simp [none]
  · rw [print, layout.lines_print (plain.stable layout), lines_eq, structLines_eq]
    -- A line at a place in its list is printed behind the margin of that place.
    simp [passedLines, closingLines, List.mapIdx_eq_zipIdx_map, opening, closing, memberLines,
      Function.comp_def]

end Declaration

/-- A type that was understood reads back from its printed text, outside any module and with its
reserved members renamed, and the printed structure stands between the lines of its modules. -/
theorem DetectedType.detect_print {fullName idl : Text} {type : DetectedType} (layout : Layout)
    (found : detect fullName idl = .ok type) (parsed : type.isParsed = true)
    (named : ∀ segment ∈ type.modules ++ [type.name],
      IsIdentifier segment ∧ segment ∉ Declaration.keywords)
    (plain : ∀ member ∈ type.members,
      '{' ∉ member ∧ '}' ∉ member ∧ ¬ "2147483647".toList <:+: member)
    (qualified : ∀ reference ∈ type.references, ∀ segment ∈ ScopedName.segments reference,
      IsWordText segment) :
    (∃ again, detect type.name (type.print layout) = .ok again ∧ again.isParsed = true ∧
      again.name = type.name ∧ again.modules = [] ∧
      again.members = type.members.map Member.renameReserved) ∧
    ∃ directives : List Text,
      (∀ line ∈ directives, ∃ text, line = layout.margin 0 ++ '#' :: text) ∧
      (layout.includes = false → directives = []) ∧
      Text.lines (type.print layout) =
        directives ++
        (type.modules.mapIdx fun level outer =>
          layout.margin level ++ "module ".toList ++ outer ++ " \x7b".toList) ++
        ([layout.margin type.modules.length ++ "struct ".toList ++ type.name ++
            " \x7b".toList] ++
          (type.members.map fun member =>
            layout.margin (type.modules.length + 1) ++ Member.renameReserved member ++ [';']) ++
          [layout.margin type.modules.length ++ "\x7d;".toList]) ++
        (type.modules.mapIdx fun level outer =>
          layout.margin level ++ "\x7d; // module ".toList ++ outer).reverse := by
  obtain ⟨declaration, present⟩ := Option.isSome_iff_exists.mp parsed
  have wasRead : Declaration.read idl = .ok declaration := by
    unfold detect at found
    split at found
    · obtain rfl := Except.ok.inj found
      cases present
    · split at found
      · obtain rfl := Except.ok.inj found
        obtain rfl := Option.some.inj present
        assumption
      · cases found
  simp only [modules, name, members, references, present] at named plain qualified
  have isPlain : declaration.IsPlain :=
    ⟨named, fun member listed => Declaration.isPlain_of_read wasRead listed (plain member listed),
      qualified⟩
  simp only [print, modules, name, members, present]
  refine ⟨?_, isPlain.lines_print layout⟩
  -- The name declared is a single segment, and so is the name asked for.
  simp [detect, isPlain.read_print layout, Declaration.fullName, ScopedName.ofSegments, Text.join,
    isParsed]

/-- A structure in a module, with a reserved member and an inclusion before it, reads back. -/
theorem DetectedType.detect_print_with_inclusion :
    ∃ type again,
      detect "A::B".toList "struct A::B \x7b long sequence; C::D d; \x7d;".toList = .ok type ∧
      detect type.name (type.print { includes := true }) = .ok again ∧ again.modules = [] ∧
      again.members = ["long sequence_".toList, "C::D d".toList] := by
  have found : detect "A::B".toList "struct A::B \x7b long sequence; C::D d; \x7d;".toList =
      .ok ⟨"A::B".toList, "struct A::B \x7b long sequence; C::D d; \x7d;".toList,
        some ⟨[], ["A".toList], "B".toList, ["long sequence".toList, "C::D d".toList]⟩⟩ := by
    decide +kernel
  obtain ⟨⟨again, readBack, -, -, modules, members⟩, -⟩ :=
    detect_print { includes := true } found rfl (by decide +kernel) (by decide +kernel)
      (by decide +kernel)
  exact ⟨_, again, found, readBack, modules, members⟩

end IdlScout
