import IdlScout.Proofs.Idl.MemberType

/-! The types that members refer to are found behind every run of annotations. -/

namespace IdlScout

/-- Whether the parentheses of a text close each other; the number counts those open before it. -/
def isBalanced : Nat → Text → Bool
  | depth, [] => depth == 0
  | depth, c :: rest =>
    if c = '(' then isBalanced (depth + 1) rest
    else if c = ')' then depth != 0 && isBalanced (depth - 1) rest
    else isBalanced depth rest

/-- What follows the name of a member's annotation, up to what comes next. -/
inductive NoteTail where
  | bare (gap : Break)
  | called (before : Gap) (arguments : Text) (balanced : isBalanced 0 arguments = true)
      (solid : Text.Lacks arguments [';', '\x7d']) (after : Gap)

/-- An annotation of a member. -/
structure MemberNote where
  name : Text
  made : name.all Member.isAnnotationChar = true
  tail : NoteTail

/-- The blanks, or the arguments between blanks. -/
def NoteTail.text : NoteTail → Text
  | .bare gap => gap.text
  | .called before arguments _ _ after => before.text ++ '(' :: (arguments ++ ')' :: after.text)

/-- An annotation with the blanks after it. -/
def MemberNote.text (note : MemberNote) : Text :=
  '@' :: (note.name ++ note.tail.text)

/-- The parts of a member declaration. -/
structure MemberParts where
  notes : List MemberNote
  type : TypeText
  gap : Break
  name : Text
  named : name ≠ []
  visible : IsVisibleText name

/-- The characters of a member declaration. -/
def MemberParts.text (parts : MemberParts) : Text :=
  parts.notes.flatMap MemberNote.text ++ (parts.type.text ++ (parts.gap.text ++ parts.name))

/-- A member declaration as it is written. -/
structure MemberSource extends MemberParts where
  solid : Text.Lacks name [';', '\x7d']
  /-- More is left of a name than bounds that stand for none. -/
  remains : Declaration.dropUnbounded name ≠ []

/-- A member declaration has no blanks at its ends. -/
theorem MemberParts.trimmed (parts : MemberParts) : IsTrimmed parts.text := by
  -- The text starts with a note or with the type, and ends with the name.
  refine ⟨fun c begins => ?_, fun c ends => ?_⟩
  · cases present : parts.notes with
    | nil =>
      obtain ⟨first, more, shape, solid, -⟩ := parts.type.exists_cons
      obtain rfl : first = c := by simpa [MemberParts.text, present, shape] using begins
      exact solid
    | cons note notes =>
      obtain rfl : '@' = c := by
        simpa [MemberParts.text, present, MemberNote.text] using begins
      decide
  · rw [MemberParts.text, ← List.append_assoc, ← List.append_assoc,
      List.getLast?_append_of_ne_nil _ parts.named] at ends
    exact parts.visible c (List.mem_of_mem_getLast? ends)

/-- What stands between the braces: members, each with the blanks before and after its semicolon. -/
structure BodySource where
  lead : Gap
  members : List (MemberSource × Gap × Gap)

/-- The characters between the braces. -/
def BodySource.text (body : BodySource) : Text :=
  body.lead.text ++ body.members.flatMap fun (member, before, after) =>
    member.toMemberParts.text ++ before.text ++ ';' :: after.text

/-! ## Behind the annotations -/

namespace Member

/-- No blank is in the name of an annotation. -/
theorem isAnnotationChar_of_isBlank {c : Char} (blank : isBlank c = true) :
    isAnnotationChar c = false := by
  have apart : (!isAnnotationChar c) = true :=
    of_isBlank (p := fun c => !isAnnotationChar c) (by decide +kernel) blank
  simpa using apart

/-- Balanced arguments are passed up to the bracket that closes them. -/
theorem afterBrackets_append {arguments : Text} {depth : Nat}
    (balanced : isBalanced depth arguments = true) (rest : Text) :
    afterBrackets (depth + 1) (arguments ++ ')' :: rest) = rest := by
  -- The walk has one bracket more open than the arguments: the one before them.
  induction arguments generalizing depth with
  | nil =>
    obtain rfl : depth = 0 := by simpa [isBalanced] using balanced
    rfl
  | cons c arguments ih =>
    rw [isBalanced] at balanced
    rw [List.cons_append, afterBrackets]
    -- Every case of the check of balance is the case of the walk at one bracket more.
    split_ifs at balanced ⊢ with opens closes shallow
    · exact ih balanced
    · simp only [Bool.and_eq_true, bne_iff_ne] at balanced
      omega
    · simp only [Bool.and_eq_true, bne_iff_ne] at balanced
      obtain ⟨less, rfl⟩ := Nat.exists_eq_succ_of_ne_zero balanced.1
      exact ih balanced.2
    · exact ih balanced

/-- An annotation is passed, with its arguments and all blanks up to what comes next. -/
theorem annotationRest_note (note : MemberNote) {rest : Text}
    (starts : ∀ c ∈ rest.head?, isBlank c = false ∧ c ≠ '(') :
    annotationRest (note.name ++ (note.tail.text ++ rest)) = rest := by
  have visible : Text.trimStart rest = rest :=
    Text.trimStart_of_head fun c first => (starts c first).1
  obtain ⟨name, made, tail⟩ := note
  -- The name ends at the first blank or bracket.
  have named {c : Char} (ends : isAnnotationChar c = false) (more : Text) :
      (name ++ c :: more).dropWhile isAnnotationChar = c :: more := by
    rw [List.dropWhile_append_of_pos (List.all_eq_true.mp made),
      List.dropWhile_cons_of_neg (by simp [ends])]
  -- Behind the name only blanks follow, or blanks and arguments in brackets.
  cases tail with
  | bare gap =>
    obtain ⟨c, more, split⟩ := List.exists_cons_of_ne_nil gap.nonempty
    have blank : isBlank c = true := gap.blank c (by simp [split])
    have next :
        Text.trimStart ((name ++ (gap.text ++ rest)).dropWhile isAnnotationChar) = rest := by
      rw [split, List.cons_append, named (isAnnotationChar_of_isBlank blank), ← List.cons_append,
        ← split, Text.trimStart_append gap.blank, visible]
    simp only [annotationRest, NoteTail.text, next]
    split
    · exact absurd rfl (starts '(' rfl).2
    · rfl
  | called before arguments balanced solid after =>
    have next : Text.trimStart ((name ++ (before.text ++ '(' :: (arguments ++ ')' ::
        (after.text ++ rest)))).dropWhile isAnnotationChar) =
          '(' :: (arguments ++ ')' :: (after.text ++ rest)) := by
      have bracket (more : Text) : Text.trimStart ('(' :: more) = '(' :: more := rfl
      -- A blank ends the name if one is there; otherwise the bracket does.
      cases split : before.text with
      | nil => rw [List.nil_append, named (by decide), bracket]
      | cons c more =>
        have blank : isBlank c = true := before.blank c (by simp [split])
        rw [List.cons_append, named (isAnnotationChar_of_isBlank blank), ← List.cons_append,
          ← split, Text.trimStart_append before.blank, bracket]
    have shape : name ++ ((NoteTail.called before arguments balanced solid after).text ++ rest) =
        name ++ (before.text ++ '(' :: (arguments ++ ')' :: (after.text ++ rest))) := by
      simp [NoteTail.text]
    have passed := afterBrackets_append balanced (after.text ++ rest)
    have opened : afterBrackets 0 ('(' :: (arguments ++ ')' :: (after.text ++ rest))) =
        afterBrackets 1 (arguments ++ ')' :: (after.text ++ rest)) := rfl
    rw [annotationRest, shape, next]
    simp only [opened, passed, Text.trimStart_append after.blank, visible]

/-- A run of annotations is passed. -/
theorem afterAnnotations_notes (notes : List MemberNote) {rest : Text}
    (starts : ∀ c ∈ rest.head?, isBlank c = false ∧ c ≠ '(' ∧ c ≠ '@') :
    afterAnnotations (notes.flatMap MemberNote.text ++ rest) = rest := by
  -- Each annotation is followed by another one or by the rest, and neither opens a bracket.
  induction notes with
  | nil =>
    rw [List.flatMap_nil, List.nil_append, afterAnnotations.eq_2]
    rintro more rfl
    exact (starts '@' rfl).2.2 rfl
  | cons note notes ih =>
    -- What follows an annotation is the at sign of the next one, or the rest.
    have next : ∀ c ∈ (notes.flatMap MemberNote.text ++ rest).head?,
        isBlank c = false ∧ c ≠ '(' := by
      cases notes with
      | nil => exact fun c first => ⟨(starts c first).1, (starts c first).2.1⟩
      | cons next more =>
        intro c first
        obtain rfl : '@' = c := by simpa [MemberNote.text] using first
        decide
    rw [List.flatMap_cons, List.append_assoc, MemberNote.text, List.cons_append, List.append_assoc,
      afterAnnotations, annotationRest_note note next, ih]

/-- A member is broken at the last of the blanks before its name. -/
theorem breakLastBlank?_gap (gap : Break) (front : Text) {name : Text}
    (visible : IsVisibleText name) : ∃ init, IsBlankText init ∧
      Text.breakLastBlank? (front ++ (gap.text ++ name)) = some (front ++ init, name) := by
  -- The break takes the last of the blanks and leaves the others before it.
  obtain ⟨c, last⟩ := Option.isSome_iff_exists.mp (List.getLast?_isSome.mpr gap.nonempty)
  obtain ⟨init, split⟩ := List.getLast?_eq_some_iff.mp last
  refine ⟨init, fun d member => gap.blank d (by simp [split, member]), ?_⟩
  have found := Text.breakLast?_append (gap.blank c (by simp [split])) (front ++ init) visible
  rw [split]
  simpa [Text.breakLastBlank?] using found

/-- The type of a member is found between its annotations and its name. -/
theorem typeText_text (parts : MemberParts) : typeText parts.text = parts.type.text := by
  -- The declaration is all that is behind the annotations.
  have declared : stripAnnotations parts.text =
      parts.type.text ++ (parts.gap.text ++ parts.name) := by
    rw [stripAnnotations, Text.trim_of_isTrimmed parts.trimmed]
    refine afterAnnotations_notes parts.notes fun c begins => ?_
    obtain ⟨first, more, shape, solid, -, noMark, noBracket⟩ := parts.type.exists_cons
    obtain rfl : first = c := by simpa [shape] using begins
    exact ⟨solid, noBracket, noMark⟩
  obtain ⟨init, blanks, broken⟩ := breakLastBlank?_gap parts.gap parts.type.text parts.visible
  simp only [typeText, declared, broken]
  rw [Text.trim_append_right blanks, Text.trim_of_isTrimmed parts.type.trimmed]

/-- A member refers to what its type refers to, whatever annotations are before it. -/
theorem reference?_text (parts : MemberParts) :
    reference? parts.text = parts.type.reference? := by
  rw [reference?, typeText_text, innermost_type, TypeText.reference?]

end Member

/-! ## The passes before a declaration is read -/

/-- The brackets that arguments stand in. -/
def isParenthesis (c : Char) : Bool :=
  c == '(' || c == ')'

/-- Only the parentheses of a text decide whether it is balanced. -/
theorem isBalanced_filter (text : Text) (depth : Nat) :
    isBalanced depth (text.filter isParenthesis) = isBalanced depth text := by
  -- A character that is no parenthesis leaves the depth as it is.
  induction text generalizing depth with
  | nil => rfl
  | cons c rest ih =>
    by_cases listed : isParenthesis c
    · rw [List.filter_cons_of_pos listed, isBalanced, isBalanced, ih, ih, ih]
    · have other : c ≠ '(' ∧ c ≠ ')' := by simpa [isParenthesis] using listed
      rw [List.filter_cons_of_neg listed, isBalanced, if_neg other.1, if_neg other.2, ih]

namespace Declaration

/-- No bound holds a parenthesis. -/
theorem filter_dropUnbounded (text : Text) :
    (dropUnbounded text).filter isParenthesis = text.filter isParenthesis := by
  rw [dropUnbounded, List.cons_append, List.cons_append,
    Text.filter_replace (by decide) (by decide), Text.filter_replace (by decide) (by decide)]

/-- Without the bounds that stand for none, on one line, a text lacks the signs that it did. -/
theorem lacks_settled {text signs : Text} (visible : IsVisibleText signs) (kept : '>' ∉ signs)
    (lacks : Text.Lacks text signs) : Text.Lacks (onOneLine (dropUnbounded text)) signs := by
  -- A bound leaves a bracket behind, and a line ending a space; all other characters were there.
  intro c member listed
  have other : c ≠ '>' := by
    rintro rfl
    exact kept listed
  exact not_mem_onOneLine (visible c listed)
    (fun found => lacks c (mem_of_mem_dropUnbounded found other) listed) member

/-- Without the bounds that stand for none, on one line, an annotation is still one. -/
theorem settled_note (note : MemberNote) : ∃ other : MemberNote, ∀ rest,
    onOneLine (dropUnbounded (note.text ++ rest)) =
      other.text ++ onOneLine (dropUnbounded rest) := by
  have marked := onOneLine_cons (by decide : isBlank '@' = false)
  have opened := onOneLine_cons (by decide : isBlank '(' = false)
  have closed := onOneLine_cons (by decide : isBlank ')' = false)
  obtain ⟨name, made, tail⟩ := note
  have outside {c : Char} (other : Member.isAnnotationChar c = false) : c ∉ name := fun member => by
    simp [List.all_eq_true.mp made c member] at other
  have single : onOneLine name = name := onOneLine_of_not_mem (outside (by decide))
  -- No bound is in the name or in the blanks behind it.
  have unbounded (gap : Gap) : dropUnbounded ('@' :: (name ++ gap.text)) =
      '@' :: (name ++ gap.text) :=
    dropUnbounded_of_not_mem <| by
      simp [outside (c := '>') (by decide), gap.blank.not_mem (c := '>') (by decide)]
  cases tail with
  | bare gap =>
    refine ⟨⟨name, made, .bare gap.oneLine⟩, fun rest => ?_⟩
    -- No bound goes on into the blanks.
    have outside : ∀ c ∈ (gap.text ++ rest).head?, c ∉ boundCharacters := fun c first => by
      rw [List.head?_append_of_ne_nil _ gap.nonempty] at first
      exact blank_not_bound (gap.blank c (List.mem_of_mem_head? first))
    have passed := dropUnbounded_append outside ('@' :: name)
    have named := unbounded ⟨[], by decide⟩
    rw [List.append_nil] at named
    rw [named, dropUnbounded_blank_append gap.blank] at passed
    simp only [MemberNote.text, NoteTail.text, List.cons_append, List.append_assoc] at passed ⊢
    rw [passed, marked, onOneLine_append, onOneLine_append, single]
    rfl
  | called before arguments balanced solid after =>
    -- Neither pass adds a parenthesis or takes one away.
    have still : isBalanced 0 (onOneLine (dropUnbounded arguments)) = true := by
      rw [← isBalanced_filter, filter_onOneLine (by decide) (by decide), filter_dropUnbounded,
        isBalanced_filter, balanced]
    have plain : Text.Lacks (onOneLine (dropUnbounded arguments)) [';', '\x7d'] :=
      lacks_settled (by decide) (by decide) solid
    refine ⟨⟨name, made, .called before.oneLine _ still plain after.oneLine⟩, fun rest => ?_⟩
    have shape : (MemberNote.mk name made (.called before arguments balanced solid after)).text ++
        rest = '@' :: (name ++ before.text) ++ '(' ::
          (arguments ++ ')' :: (after.text ++ rest)) := by
      simp [MemberNote.text, NoteTail.text]
    rw [shape, dropUnbounded_append_cons (by decide), dropUnbounded_append_cons (by decide),
      dropUnbounded_blank_append after.blank, unbounded]
    simp only [onOneLine_append, marked, opened, closed, single]
    simp [MemberNote.text, NoteTail.text, Gap.oneLine]

/-- A run of annotations is still one. -/
theorem settled_notes (notes : List MemberNote) : ∃ others : List MemberNote, ∀ rest,
    onOneLine (dropUnbounded (notes.flatMap MemberNote.text ++ rest)) =
      others.flatMap MemberNote.text ++ onOneLine (dropUnbounded rest) := by
  induction notes with
  | nil => exact ⟨[], fun rest => rfl⟩
  | cons note notes ih =>
    obtain ⟨other, first⟩ := settled_note note
    obtain ⟨others, later⟩ := ih
    refine ⟨other :: others, fun rest => ?_⟩
    rw [List.flatMap_cons, List.flatMap_cons, List.append_assoc, List.append_assoc, first, later]

/-- A member is kept as a declaration of what is left of its type. -/
theorem settled_parts (member : MemberSource) : ∃ other : MemberParts,
    other.type = member.type.settled ∧ onOneLine (dropUnbounded member.text) = other.text := by
  -- The notes, the type, the gap and the name are settled each on its own.
  obtain ⟨notes, passed⟩ := settled_notes member.notes
  -- A replaced bound can leave its bracket in a name, and a bracket is visible.
  have visible : IsVisibleText (dropUnbounded member.name) := fun c found => by
    by_cases bracket : c = '>'
    · subst bracket; decide
    · exact member.visible c (mem_of_mem_dropUnbounded found bracket)
  have single : onOneLine (dropUnbounded member.name) = dropUnbounded member.name :=
    onOneLine_of_not_mem fun found => absurd (visible _ found) (by decide)
  refine ⟨⟨notes, member.type.settled, member.gap.oneLine, dropUnbounded member.name,
    member.remains, visible⟩, rfl, ?_⟩
  rw [MemberParts.text, passed, dropUnbounded_type, onOneLine_append,
    dropUnbounded_blank_append member.gap.blank, onOneLine_append, single, ← TypeText.text_oneLine]
  rfl

/-- A member is kept as a declaration that refers to the same. -/
theorem settled_member (member : MemberSource) : ∃ other : MemberParts,
    other.type.reference? = member.type.reference? ∧
      onOneLine (dropUnbounded member.text) = other.text := by
  obtain ⟨other, typed, settled⟩ := settled_parts member
  exact ⟨other, by rw [typed, TypeText.reference?_settled], settled⟩

end Declaration

/-- An annotation ends neither a member nor a declaration. -/
theorem MemberNote.solid (note : MemberNote) : Text.Lacks note.text [';', '\x7d'] := by
  have blanks (gap : Gap) : Text.Lacks gap.text [';', '\x7d'] := gap.lacks (by decide)
  have signs : Text.Lacks ['@', '(', ')'] [';', '\x7d'] := by decide
  have others : [';', '\x7d'].all (!Member.isAnnotationChar ·) = true := by decide
  have named : Text.Lacks note.name [';', '\x7d'] := fun c member listed => by
    have other := List.all_eq_true.mp others c listed
    -- A name is made of characters that no listed sign is.
    simp [List.all_eq_true.mp note.made c member] at other
  simp only [text, Text.lacks_append, Text.lacks_cons]
  refine ⟨signs '@' (by simp), named, ?_⟩
  cases note.tail with
  | bare gap => exact blanks gap.toGap
  | called before arguments _ solid after =>
    simp only [NoteTail.text, Text.lacks_append, Text.lacks_cons]
    exact ⟨blanks before, signs '(' (by simp), solid, signs ')' (by simp), blanks after⟩

/-- A member ends neither itself nor the declaration. -/
theorem MemberSource.text_solid (member : MemberSource) :
    Text.Lacks member.toMemberParts.text [';', '\x7d'] := by
  simp only [MemberParts.text, Text.lacks_append]
  -- Each part of the member lacks both signs.
  refine ⟨fun c inside => ?_, member.type.solid, member.gap.lacks (by decide), member.solid⟩
  obtain ⟨note, -, inNote⟩ := List.mem_flatMap.mp inside
  exact note.solid c inNote

/-- The declaration does not end among its members. -/
theorem BodySource.unclosed (body : BodySource) : '\x7d' ∉ body.text := by
  have apart (gap : Gap) : '\x7d' ∉ gap.text := gap.blank.not_mem (by decide)
  simp only [text, List.mem_append, List.mem_flatMap, not_or, not_exists, not_and]
  refine ⟨apart body.lead, fun (member, before, after) _ => ⟨⟨?_, apart before⟩, ?_⟩⟩
  · exact fun found => member.text_solid _ found (by simp)
  · simpa using apart after

/-- The references are the innermost types of the members that are in modules, in member order,
and nothing else. -/
theorem DetectedType.references_of_members (frame : Spelling) {front : Text}
    (keywordless : Declaration.Keywordless false (Declaration.dropUnbounded front))
    (ends : Declaration.EndsOutsideWord (Declaration.dropUnbounded front)) (body : BodySource) :
    ∃ type, detect frame.fullName (front ++ frame.around body.text) = .ok type ∧
      type.isParsed = true ∧
      type.references = body.members.filterMap fun (member, _) => member.type.reference? := by
  have kept (member : MemberSource) : ∃ other : MemberParts,
      other.type.reference? = member.type.reference? ∧
        Text.trim (Declaration.onOneLine (Declaration.dropUnbounded member.toMemberParts.text)) =
          other.text := by
    obtain ⟨other, same, settled⟩ := Declaration.settled_member member
    exact ⟨other, same, by rw [settled, Text.trim_of_isTrimmed other.trimmed]⟩
  have inside : Declaration.fragments ';' (Declaration.dropUnbounded body.text) =
      body.members.map fun (member, _) => Text.trim
        (Declaration.onOneLine (Declaration.dropUnbounded member.toMemberParts.text)) := by
    refine Declaration.fragments_members (fun member : MemberSource => member.toMemberParts.text)
      body.lead body.members (fun entry _ found => entry.1.text_solid _ found (by simp))
      fun entry _ => ?_
    obtain ⟨other, -, settled⟩ := kept entry.1
    rw [settled]
    simp [MemberParts.text, other.named]
  have found := frame.read_behind keywordless ends body.unclosed
  rw [inside] at found
  -- The references are settled member by member.
  refine ⟨_, detect_of_read found rfl, rfl, ?_⟩
  simp only [references, Declaration.references, List.filterMap_map]
  refine List.filterMap_congr fun entry _ => ?_
  obtain ⟨other, same, settled⟩ := kept entry.1
  simp only [Function.comp_apply, settled, Member.reference?_text, same]

/-- A sequence of sequences behind two annotations, and a string, each written down once. -/
theorem DetectedType.references_of_nested_sequence :
    ∃ type, detect "T".toList ("struct T\x7b\n" ++
        "@range(max=(4))@key sequence<sequence< a::B,5>, 2147483647>\tbs;" ++
        "string<9> s;\x7d;").toList = .ok type ∧
      type.references = ["a::B".toList] := by
  let tight : Gap := ⟨[], by decide⟩
  let space : Break := ⟨⟨[' '], by decide⟩, by decide⟩
  let element : TypeText := .sequence space.toGap
    (.named ⟨"a::B".toList, by decide, by decide, by decide, by decide, by decide⟩) tight
    (some ⟨tight, ['5'], tight, by decide⟩)
  let sequenced : MemberSource := {
    notes := [
      ⟨"range".toList, by decide, .called tight "max=(4)".toList (by decide) (by decide) tight⟩,
      ⟨"key".toList, by decide, .bare space⟩]
    type := .sequence tight element tight
      (some ⟨space.toGap, "2147483647".toList, tight, by decide⟩)
    gap := ⟨⟨['\t'], by decide⟩, by decide⟩
    name := "bs".toList
    named := by decide
    visible := by decide
    solid := by decide
    remains := by decide }
  let bounded : MemberSource := {
    notes := []
    type := .string (some ⟨tight, ['9'], tight, by decide⟩)
    gap := space
    name := ['s']
    named := by decide
    visible := by decide
    solid := by decide
    remains := by decide }
  let frame : Spelling := {
    lead := tight
    annotations := []
    keyword := "struct".toList
    listed := by decide
    afterKeyword := space
    modules := []
    name := ['T']
    identifiers := by decide
    base := none
    beforeBrace := tight
    afterBrace := tight
    members := []
    rest := [] }
  have alone : Declaration.Keywordless false (Declaration.dropUnbounded []) := .of_blank (by decide)
  obtain ⟨type, found, -, references⟩ := references_of_members frame alone (by decide)
    ⟨⟨['\n'], by decide⟩, [(sequenced, tight, tight), (bounded, tight, tight)]⟩
  exact ⟨type, found, references⟩

end IdlScout
