import IdlScout.Proofs.Idl.References
import IdlScout.Proofs.Idl.Reprint

/-! Bounds of strings and sequences: the one that stands for none is removed where no blank is
around it, and all other bounds are kept. -/

namespace IdlScout

/-- Digits, between blanks, up to the bracket that closes a bound. -/
def ClosesBound (digits text : Text) : Prop :=
  ∃ lead trail after, IsBlankText lead ∧ IsBlankText trail ∧
    text = lead ++ (digits ++ (trail ++ '>' :: after))

/-- A number that bounds something in a text: it is alone between brackets, or behind a comma. -/
def BoundedBy (digits text : Text) : Prop :=
  ∃ before mark rest, (mark = '<' ∨ mark = ',') ∧ ClosesBound digits rest ∧
    text = before ++ mark :: rest

/-- A number in decimal digits. -/
structure IsNumber (digits : Text) : Prop where
  nonempty : digits ≠ []
  decimal : digits.all isAsciiDigit = true

/-- The bounds of a type, in the order in which they are written. -/
def TypeText.bounds : TypeText → List BoundText
  | .named _ => []
  | .string bound => bound.toList
  | .sequence _ element _ bound => element.bounds ++ bound.toList

/-! ## Bounds in texts -/

variable {digits : Text}

/-- A number is bound by what stands behind the first character, or further on. -/
theorem boundedBy_cons_iff {c : Char} {rest : Text} : BoundedBy digits (c :: rest) ↔
    ((c = '<' ∨ c = ',') ∧ ClosesBound digits rest) ∨ BoundedBy digits rest := by
  constructor
  · rintro ⟨before, mark, more, sign, closes, whole⟩
    -- The bound is at the first character or further on, by whether anything is before it.
    cases before with
    | nil =>
      obtain ⟨rfl, rfl⟩ := List.cons.inj whole
      exact .inl ⟨sign, closes⟩
    | cons d before =>
      obtain ⟨-, rfl⟩ := List.cons.inj whole
      exact .inr ⟨before, mark, more, sign, closes, rfl⟩
  · rintro (⟨sign, closes⟩ | ⟨before, mark, more, sign, closes, rfl⟩)
    · exact ⟨[], c, rest, sign, closes, rfl⟩
    · exact ⟨c :: before, mark, more, sign, closes, rfl⟩

/-- Nothing is bound in the empty text. -/
theorem not_boundedBy_nil : ¬ BoundedBy digits [] := by
  rintro ⟨before, mark, rest, -, -, whole⟩
  simp at whole

/-- A text without brackets and commas bounds nothing. -/
theorem boundedBy_append_iff {plain : Text} (lacks : Text.Lacks plain ['<', ',']) (rest : Text) :
    BoundedBy digits (plain ++ rest) ↔ BoundedBy digits rest := by
  induction plain with
  | nil => rfl
  | cons c plain ih =>
    obtain ⟨first, others⟩ := Text.lacks_cons.mp lacks
    -- A character of such a text opens no bound, so the search goes on behind it.
    have apart : ¬ (c = '<' ∨ c = ',') := by simpa using first
    rw [List.cons_append, boundedBy_cons_iff, ih others]
    simp [apart]

/-- A digit is visible. -/
theorem isBlank_of_isAsciiDigit {c : Char} (digit : isAsciiDigit c = true) : isBlank c = false := by
  rw [Bool.eq_false_iff]
  -- The blanks are few enough to be checked one by one.
  intro blank
  have apart : (!isAsciiDigit c) = true :=
    of_isBlank (p := fun c => !isAsciiDigit c) (by decide) blank
  simp [digit] at apart

/-- Of a number between blanks the digits are left. -/
theorem filter_digits {lead trail : Text} (leadBlank : IsBlankText lead)
    (trailBlank : IsBlankText trail) (decimal : digits.all isAsciiDigit = true) :
    (lead ++ (digits ++ trail)).filter isAsciiDigit = digits := by
  -- The blanks around the number hold no digit, and the number holds nothing else.
  have gone {gap : Text} (blank : IsBlankText gap) : gap.filter isAsciiDigit = [] :=
    List.filter_eq_nil_iff.mpr fun c member digit =>
      absurd (blank c member) (by simp [isBlank_of_isAsciiDigit digit])
  rw [List.filter_append, List.filter_append, gone leadBlank, gone trailBlank,
    List.filter_eq_self.mpr (List.all_eq_true.mp decimal), List.nil_append, List.append_nil]

/-- A bound has one number in it. -/
theorem closesBound_bound_iff (number : IsNumber digits) (bound : BoundText) (rest : Text) :
    ClosesBound digits (bound.text ++ '>' :: rest) ↔ bound.digits = digits := by
  constructor
  · rintro ⟨lead, trail, after, leadBlank, trailBlank, whole⟩
    -- The number with its blanks has no bracket, so the first one closes the bound.
    have unclosed : '>' ∉ lead ++ (digits ++ trail) := by
      have inDigits : '>' ∉ digits := fun member =>
        absurd (List.all_eq_true.mp number.decimal _ member) (by decide)
      simp [leadBlank.not_mem (c := '>') (by decide), trailBlank.not_mem (c := '>') (by decide),
        inDigits]
    -- Both texts are cut at their first closing bracket.
    have split := Text.breakAt?_append (bound.not_mem (c := '>') (by decide)) rest
    have cut : bound.text ++ '>' :: rest = (lead ++ (digits ++ trail)) ++ '>' :: after := by
      simpa using whole
    rw [cut, Text.breakAt?_append unclosed] at split
    have same : lead ++ (digits ++ trail) = bound.text := (Prod.mk.inj (Option.some.inj split)).1
    have left := filter_digits leadBlank trailBlank number.decimal
    have right := filter_digits bound.before.blank bound.after.blank bound.decimal
    rw [same, BoundText.text, List.append_assoc, right] at left
    exact left
  · rintro rfl
    exact ⟨bound.before.text, bound.after.text, rest, bound.before.blank, bound.after.blank,
      by simp [BoundText.text]⟩

/-- No number stands where a type does. -/
theorem not_closesBound_type (number : IsNumber digits) (gap : Gap) (type : TypeText)
    (rest : Text) : ¬ ClosesBound digits (gap.text ++ (type.text ++ rest)) := by
  rintro ⟨lead, trail, after, leadBlank, -, whole⟩
  obtain ⟨c, more, shape, visible, undigited, -⟩ := type.exists_cons
  obtain ⟨d, others, split⟩ := List.exists_cons_of_ne_nil number.nonempty
  have digit : isAsciiDigit d = true := List.all_eq_true.mp number.decimal d (by simp [split])
  -- Behind the blanks one text starts with a letter and the other with a digit.
  have left : Text.trimStart (gap.text ++ (type.text ++ rest)) = c :: (more ++ rest) := by
    rw [Text.trimStart_append gap.blank, shape]
    exact Text.trimStart_of_head (by simp [visible])
  rw [whole, Text.trimStart_append leadBlank, split,
    Text.trimStart_of_head (by simp [isBlank_of_isAsciiDigit digit])] at left
  obtain ⟨rfl, -⟩ := List.cons.inj left
  simp [undigited] at digit

/-- In the text of a type its bounds are all that is bounded. -/
theorem boundedBy_type_iff (number : IsNumber digits) (type : TypeText) (rest : Text) :
    BoundedBy digits (type.text ++ rest) ↔
      (∃ bound ∈ type.bounds, bound.digits = digits) ∨ BoundedBy digits rest := by
  have blanks (gap : Gap) (rest : Text) : BoundedBy digits (gap.text ++ rest) ↔
      BoundedBy digits rest := boundedBy_append_iff (gap.lacks (by decide)) rest
  -- Behind the number of a bound only its closing bracket is left of the type.
  have closed (bound : BoundText) (rest : Text) : BoundedBy digits (bound.text ++ '>' :: rest) ↔
      BoundedBy digits rest := by
    rw [boundedBy_append_iff (bound.lacks (by decide)), boundedBy_cons_iff]
    simp
  -- An element is followed by the rest of its sequence, so anything may follow a type.
  induction type generalizing rest with
  | named name =>
    have plain : Text.Lacks name.text ['<', ','] := name.lacks (by decide)
    simp [TypeText.text, TypeText.bounds, boundedBy_append_iff plain]
  | string bound =>
    have word : Text.Lacks TypeText.stringWord ['<', ','] := by decide
    cases bound with
    | none => simp [TypeText.text, TypeText.bounds, boundedBy_append_iff word]
    | some bound =>
      simp [TypeText.text, TypeText.bounds, BoundText.bracketed, boundedBy_append_iff word,
        boundedBy_cons_iff, closesBound_bound_iff number, closed]
  -- What a sequence opens with is its element, and no type starts with a digit.
  | sequence before element after bound ih =>
    have word : Text.Lacks TypeText.sequenceWord ['<', ','] := by decide
    have unnumbered := not_closesBound_type number before element
    cases bound with
    | none =>
      simp [TypeText.text, TypeText.bounds, boundedBy_append_iff word, boundedBy_cons_iff,
        unnumbered, blanks, ih]
    | some bound =>
      simp [TypeText.text, TypeText.bounds, BoundText.listed, boundedBy_append_iff word,
        boundedBy_cons_iff, closesBound_bound_iff number, unnumbered, blanks, ih, closed, or_assoc,
        or_and_right, exists_or]

/-! ## What is left of a type -/

namespace TypeText

/-- The bounds that stand for none are gone where no blank is in their brackets, and all others are
left, each on one line. -/
theorem bounds_settled (type : TypeText) : type.settled.bounds =
    (type.bounds.filter fun bound => bound.text != Declaration.unboundedSentinel).map
      BoundText.oneLine := by
  -- Both passes drop a bound by the same test and put the others on one line.
  have single (bound : Option BoundText) : ((bound.bind BoundText.kept?).map
      BoundText.oneLine).toList = (bound.toList.filter fun bound =>
        bound.text != Declaration.unboundedSentinel).map BoundText.oneLine := by
    cases bound with
    | none => rfl
    | some bound =>
      by_cases unbounded : bound.text = Declaration.unboundedSentinel <;>
        simp [BoundText.kept?, unbounded]
  induction type with
  | named name => rfl
  | string bound => exact single bound
  | sequence before element after bound ih =>
    -- The first pass has left the bound of a sequence, and the second one that of a string.
    have split : (sequence before element after bound).settled.bounds = element.settled.bounds ++
        ((bound.bind BoundText.kept?).map BoundText.oneLine).toList := rfl
    rw [split, ih, single, bounds, List.filter_append, List.map_append]

/-- A number bounds what is left of a type if it is in one of the bounds that are left. -/
theorem boundedBy_settled_iff {digits : Text} (number : IsNumber digits) (type : TypeText) :
    BoundedBy digits type.settled.text ↔ ∃ bound ∈ type.bounds,
      bound.digits = digits ∧ bound.text ≠ Declaration.unboundedSentinel := by
  -- With nothing behind it, the text of the type is the text.
  have whole := boundedBy_type_iff number type.settled []
  rw [List.append_nil] at whole
  have sameDigits (bound : BoundText) : bound.oneLine.digits = bound.digits := rfl
  rw [whole, bounds_settled]
  simp [not_boundedBy_nil, sameDigits, and_assoc, and_comm]

/-- No closing bracket is in the name of a type referred to. -/
theorem not_mem_reference {type : TypeText} {reference : Text}
    (found : type.reference? = some reference) : '>' ∉ reference := by
  -- The name referred to is that of the innermost type.
  induction type with
  | named name =>
    rw [reference?, Option.ite_none_right_eq_some] at found
    obtain rfl := Option.some.inj found.2
    exact name.not_mem (by decide)
  | string bound =>
    rw [reference?_string] at found
    cases found
  | sequence before element after bound ih => exact ih found

end TypeText

/-- A member is renamed behind its type. -/
theorem Member.typeText_renameReserved (parts : MemberParts) :
    typeText (renameReserved parts.text) = parts.type.text := by
  obtain ⟨init, blanks, broken⟩ := breakLastBlank?_gap parts.gap
    (parts.notes.flatMap MemberNote.text ++ parts.type.text) parts.visible
  rw [List.append_assoc, ← MemberParts.text] at broken
  have typed : parts.type.text ≠ [] := by
    obtain ⟨c, rest, shape, -⟩ := parts.type.exists_cons
    simp [shape]
  -- The blanks before the name are trimmed, and its type ends in none.
  have trimmed : Text.trimEnd (parts.notes.flatMap MemberNote.text ++ parts.type.text ++ init) =
      parts.notes.flatMap MemberNote.text ++ parts.type.text := by
    rw [Text.trimEnd_append blanks]
    refine Text.trimEnd_of_last fun c last => parts.type.last_visible c ?_
    rwa [List.getLast?_append_of_ne_nil _ typed] at last
  -- Renamed, the member is one of the same form, so its type is found by the same rule.
  by_cases reserved : parts.name ∈ reservedNames
  · have visible : IsVisibleText (parts.name ++ ['_']) :=
      isVisibleText_append.mpr ⟨parts.visible, by decide⟩
    let renamed : MemberParts := {
      parts with
      gap := ⟨⟨[' '], by decide⟩, by decide⟩
      name := parts.name ++ ['_']
      named := by simp
      visible := visible }
    have written : renameReserved parts.text = renamed.text := by
      rw [renameReserved, broken]
      dsimp only
      rw [if_pos (by simpa using reserved), trimmed]
      simp [MemberParts.text, renamed]
    rw [written]
    exact typeText_text renamed
  · have same : renameReserved parts.text = parts.text := by simp [renameReserved, broken, reserved]
    rw [same]
    exact typeText_text parts

/-! ## In the printed text -/

/-- A sign that is neither in a line nor in a margin is not printed. -/
theorem Layout.not_mem_print {layout : Layout} {lines : List Line} {c : Char}
    (visible : isBlank c = false) (absent : ∀ line ∈ lines, c ∉ line.text) :
    c ∉ layout.print lines := by
  intro inside
  -- What is printed is made of margins, lines and line feeds.
  obtain ⟨line, listed, inLine⟩ := List.mem_flatMap.mp inside
  rcases List.mem_append.mp inLine with inText | feed
  · rcases List.mem_append.mp inText with inMargin | inText
    · exact (layout.margin_blank line.level).not_mem visible inMargin
    · exact absent line listed inText
  · obtain rfl : c = '\n' := by simpa using feed
    exact absurd visible (by decide)

namespace Declaration

/-- No closing bracket is printed before the members if none is in the names of modules and of
types referred to. -/
theorem not_mem_print_passedLines {declaration : Declaration} (layout : Layout)
    (modules : ∀ outer ∈ declaration.modules, '>' ∉ outer)
    (references : ∀ reference ∈ declaration.references, '>' ∉ reference) :
    '>' ∉ layout.print (declaration.passedLines layout) := by
  refine Layout.not_mem_print (by decide) fun line listed => ?_
  rcases List.mem_append.mp listed with directive | opened
  · split at directive
    · obtain ⟨name, dependency, inIncludes⟩ := List.mem_flatMap.mp directive
      have absent := references name (of_mem_dependencies dependency).1
      -- Guards and paths are the names with other separators.
      have guarded : '>' ∉ ScopedName.guard name := fun inside =>
        (Text.mem_of_mem_replace (inside : '>' ∈ Text.replace (':' :: [':']) ['_'] name)).elim
          absent (by decide)
      have filed : '>' ∉ ScopedName.path name layout.flat := fun inside =>
        (Text.mem_of_mem_replace (inside : '>' ∈ Text.replace (':' :: [':'])
          [if layout.flat then '_' else '/'] name)).elim absent
            (by cases layout.flat <;> decide)
      simp only [includeLines, List.mem_cons, List.not_mem_nil, or_false] at inIncludes
      -- Three of the four lines of an inclusion hold the guard, and one the path.
      rcases inIncludes with rfl | rfl | rfl | rfl <;> simp [guarded, filed]
    · simp at directive
  · obtain ⟨level, within, rfl⟩ := List.mem_mapIdx.mp opened
    simp [opening, modules declaration.modules[level] (by simp)]

/-- No closing bracket is printed behind the members if none is in the names of modules. -/
theorem not_mem_print_closingLines {declaration : Declaration} (layout : Layout)
    (modules : ∀ outer ∈ declaration.modules, '>' ∉ outer) :
    '>' ∉ layout.print declaration.closingLines := by
  refine Layout.not_mem_print (by decide) fun line listed => ?_
  obtain ⟨level, within, rfl⟩ := List.mem_mapIdx.mp (List.mem_reverse.mp listed)
  simp [closing, modules declaration.modules[level] (by simp)]

/-- No closing bracket is printed but in members, if none is in a name. -/
theorem exists_print_around {declaration : Declaration} (layout : Layout)
    (names : ∀ segment ∈ declaration.modules ++ [declaration.name], '>' ∉ segment)
    (references : ∀ reference ∈ declaration.references, '>' ∉ reference) :
    ∃ before after, '>' ∉ before ∧ '>' ∉ after ∧ declaration.print layout =
      before ++ ((declaration.members.map Member.renameReserved).flatMap fun text =>
        layout.margin (declaration.modules.length + 1) ++ text ++ ";\n".toList) ++ after := by
  have modules : ∀ outer ∈ declaration.modules, '>' ∉ outer := fun outer listed =>
    names outer (List.mem_append_left _ listed)
  have margin : '>' ∉ layout.margin declaration.modules.length :=
    (layout.margin_blank _).not_mem (by decide)
  refine ⟨_, _, ?_, ?_, (declaration.print_eq_around_members layout).trans (List.append_assoc ..)⟩
  · -- Before the members stand the passed lines and the opening one, and behind them the closing
    -- ones.
    simp [not_mem_print_passedLines layout modules references, margin,
      names declaration.name (by simp)]
  · simp [not_mem_print_closingLines layout modules, margin]

/-- What is left of a member, with its annotations and its name. -/
theorem exists_settled (member : MemberSource) : ∃ parts : MemberParts,
    parts.type = member.type.settled ∧
      Text.trim (onOneLine (dropUnbounded member.toMemberParts.text)) = parts.text := by
  obtain ⟨parts, typed, settled⟩ := settled_parts member
  exact ⟨parts, typed, by rw [settled, Text.trim_of_isTrimmed parts.trimmed]⟩

/-- A declaration is read from a frame with members in it, each as it is left. -/
theorem read_members (frame : Spelling) {front : Text}
    (keywordless : Keywordless false (dropUnbounded front))
    (ends : EndsOutsideWord (dropUnbounded front)) (body : BodySource) :
    ∃ (declaration : Declaration) (left : MemberSource → MemberParts),
      read (front ++ frame.around body.text) = .ok declaration ∧
      declaration.modules = frame.modules ∧ declaration.name = frame.name ∧
      (∀ member, (left member).type = member.type.settled) ∧
      declaration.members = body.members.map fun entry => (left entry.1).text := by
  choose left typed settled using exists_settled
  -- No semicolon is in a member, so the body is cut into the members as they were written.
  have inside : fragments ';' (dropUnbounded body.text) =
      body.members.map fun entry => (left entry.1).text := by
    have cut := fragments_members (fun member : MemberSource => member.toMemberParts.text)
      body.lead body.members (fun entry _ found => entry.1.text_solid _ found (by simp))
      fun entry _ => by
        rw [settled]
        simp [MemberParts.text, (left entry.1).named]
    exact cut.trans (List.map_congr_left fun entry _ => settled entry.1)
  have found := frame.read_behind keywordless ends body.unclosed
  rw [inside] at found
  exact ⟨_, left, found, rfl, rfl, typed, rfl⟩

end Declaration

/-- In the members of a type that is detected, and in every line that is printed of them, the
bounds of strings and sequences are those that were written, without the one that stands for none
where no blank is around it; no closing bracket is printed anywhere else. So that bound is left in
some member if and only if it was written with a blank. -/
theorem DetectedType.bounds_of_members (frame : Spelling) {front : Text}
    (keywordless : Declaration.Keywordless false (Declaration.dropUnbounded front))
    (ends : Declaration.EndsOutsideWord (Declaration.dropUnbounded front)) (body : BodySource) :
    ∃ type, detect frame.fullName (front ++ frame.around body.text) = .ok type ∧
      type.isParsed = true ∧
      type.members.map Member.typeText =
        body.members.map (fun entry => entry.1.type.settled.text) ∧
      (∀ entry ∈ body.members, entry.1.type.settled.bounds =
        (entry.1.type.bounds.filter fun bound => bound.text != "2147483647".toList).map
          BoundText.oneLine) ∧
      (∀ layout, ∃ before after, '>' ∉ before ∧ '>' ∉ after ∧ type.print layout =
        before ++ ((type.members.map Member.renameReserved).flatMap fun text =>
          layout.margin (type.modules.length + 1) ++ text ++ ";\n".toList) ++ after) ∧
      (type.members.map Member.renameReserved).map Member.typeText =
        type.members.map Member.typeText ∧
      ((∃ text ∈ type.members, BoundedBy "2147483647".toList (Member.typeText text)) ↔
        ∃ entry ∈ body.members, ∃ bound ∈ entry.1.type.bounds,
          bound.digits = "2147483647".toList ∧ bound.text ≠ "2147483647".toList) := by
  obtain ⟨declaration, parts, found, modules, name, typed, members⟩ :=
    Declaration.read_members frame keywordless ends body
  have fullName : declaration.fullName = frame.fullName := by
    rw [Declaration.fullName, modules, name, Spelling.fullName]
  have types : declaration.members.map Member.typeText =
      body.members.map fun entry => entry.1.type.settled.text := by
    rw [members, List.map_map]
    refine List.map_congr_left fun entry _ => ?_
    rw [Function.comp_apply, Member.typeText_text, typed]
  have renamed : (declaration.members.map Member.renameReserved).map Member.typeText =
      declaration.members.map Member.typeText := by
    rw [members, List.map_map, List.map_map, List.map_map]
    refine List.map_congr_left fun entry _ => ?_
    simp only [Function.comp_apply, Member.typeText_renameReserved, Member.typeText_text]
  -- Identifiers and references have no brackets, so none is printed around the members.
  have names : ∀ segment ∈ declaration.modules ++ [declaration.name], '>' ∉ segment := by
    rw [modules, name]
    exact fun segment listed => (frame.identifiers segment listed).not_mem (by decide)
  have references : ∀ reference ∈ declaration.references, '>' ∉ reference := by
    intro reference listed
    obtain ⟨member, inMembers, referred⟩ := List.mem_filterMap.mp listed
    rw [members, List.mem_map] at inMembers
    obtain ⟨entry, -, rfl⟩ := inMembers
    rw [Member.reference?_text] at referred
    exact TypeText.not_mem_reference referred
  -- Whether a member has a bound left depends on its type alone.
  have left : (∃ text ∈ declaration.members,
      BoundedBy "2147483647".toList (Member.typeText text)) ↔
        ∃ text ∈ declaration.members.map Member.typeText, BoundedBy "2147483647".toList text := by
    simp only [List.mem_map, exists_exists_and_eq_and]
  have number : IsNumber "2147483647".toList := ⟨by decide, by decide⟩
  refine ⟨_, detect_of_read found fullName, rfl, types, fun entry _ => entry.1.type.bounds_settled,
    fun layout => Declaration.exists_print_around layout names references, renamed, ?_⟩
  refine left.trans ?_
  rw [types]
  simp only [List.mem_map, exists_exists_and_eq_and, TypeText.boundedBy_settled_iff number]
  rfl

/-- The bounds that stand for none are removed at every depth, and the one between them is kept. -/
theorem DetectedType.bounds_of_nested_sequence :
    ∃ type, detect "T".toList ("struct T\x7b\n" ++
        "sequence<sequence<string<2147483647>, 5>,2147483647>\tx;\x7d;").toList = .ok type ∧
      type.members.map Member.typeText = ["sequence<sequence<string, 5>>".toList] ∧
      ¬ ∃ text ∈ type.members, BoundedBy "2147483647".toList (Member.typeText text) := by
  let tight : Gap := ⟨[], by decide⟩
  let space : Break := ⟨⟨[' '], by decide⟩, by decide⟩
  let unbounded : BoundText := ⟨tight, "2147483647".toList, tight, by decide⟩
  let five : BoundText := ⟨space.toGap, ['5'], tight, by decide⟩
  let element : TypeText := .sequence tight (.string (some unbounded)) tight (some five)
  let member : MemberSource := {
    notes := []
    type := .sequence tight element tight (some unbounded)
    gap := ⟨⟨['\t'], by decide⟩, by decide⟩
    name := ['x']
    named := by decide
    visible := by decide
    solid := by decide
    remains := by decide }
  let frame : Spelling := {
    lead := tight
    annotations := []
    keyword := "struct".toList
    listed := by decide
    afterKeyword := space
    modules := []
    name := ['T']
    identifiers := by decide
    base := none
    beforeBrace := tight
    afterBrace := tight
    members := []
    rest := [] }
  have alone : Declaration.Keywordless false (Declaration.dropUnbounded []) := .of_blank (by decide)
  obtain ⟨type, found, -, types, -, -, -, left⟩ := bounds_of_members frame alone (by decide)
    ⟨⟨['\n'], by decide⟩, [(member, tight, tight)]⟩
  refine ⟨type, found, types.trans rfl, fun bounded => ?_⟩
  obtain ⟨entry, listed, bound, inType, same, other⟩ := left.mp bounded
  obtain rfl := List.mem_singleton.mp listed
  have three : bound ∈ [unbounded, five, unbounded] := inType
  simp only [List.mem_cons, List.not_mem_nil, or_false] at three
  rcases three with rfl | rfl | rfl
  · exact other rfl
  · exact absurd same (by decide)
  · exact other rfl

/-- A blank behind the comma keeps the bound that stands for none, in the member and where it is
printed. -/
theorem DetectedType.keeps_unbounded_behind_blank :
    ∃ type, detect "S".toList
        "struct S \x7b\n  sequence<long, 2147483647> y;\n\x7d;".toList = .ok type ∧
      type.members = ["sequence<long, 2147483647> y".toList] ∧
      type.print {} = "struct S \x7b\n  sequence<long, 2147483647> y;\n\x7d;\n".toList ∧
      BoundedBy "2147483647".toList
        (Member.typeText "sequence<long, 2147483647> y".toList) := by
  refine ⟨⟨"S".toList, "struct S \x7b\n  sequence<long, 2147483647> y;\n\x7d;".toList,
    some ⟨[], [], ['S'], ["sequence<long, 2147483647> y".toList]⟩⟩, by decide +kernel, rfl,
    by decide +kernel, "sequence<long".toList, ',', " 2147483647>".toList, .inr rfl,
    ⟨[' '], [], [], by decide, by decide, rfl⟩, by decide +kernel⟩

end IdlScout
