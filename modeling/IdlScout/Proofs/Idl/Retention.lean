import IdlScout.Proofs.Idl.Passage

/-! Declarations that the clean-up keeps: all but those behind the first semicolon of a line that it
writes anew, and those on lines that it takes for comments. -/

namespace IdlScout

namespace Text

/-- Where a text is cut off by one mark, a piece that ends with a mark is before it, up to it, or
behind it. -/
theorem place_cases {mark : Char} {head rest before piece after : Text}
    (whole : head ++ mark :: rest = before ++ piece ++ mark :: after) (absent : mark ∉ piece) :
    (∃ more, head = before ++ piece ++ mark :: more) ∨ head = before ++ piece ∨
      ∃ more, before = head ++ mark :: more := by
  -- The mark behind the piece is at the cut or on one side of it.
  rcases of_append_cons_eq absent whole with ⟨gap, longer, behind⟩ | ⟨gap, shorter, -⟩
  · cases gap with
    | nil => exact .inr (.inl (by simpa using longer))
    | cons c more =>
      obtain ⟨rfl, -⟩ := List.cons.inj behind
      exact .inl ⟨more, longer⟩
  · exact .inr (.inr ⟨gap, shorter⟩)

/-- A visible word behind a text keeps its place when the whole is trimmed. -/
theorem trim_append_word {word : Text} (visible : IsVisibleText word) (nonempty : word ≠ [])
    (front : Text) : trim (front ++ word) = trimStart front ++ word := by
  have start : trimStart (front ++ word) = trimStart front ++ word := by
    -- The white space of the front ends in the front, or the front has nothing else.
    rw [trimStart, List.dropWhile_append]
    split
    · rename_i blank
      have nothing : trimStart front = [] := List.isEmpty_iff.mp blank
      rw [nothing]
      exact trimStart_of_head visible.isTrimmed.1
    · rfl
  rw [trim, start]
  refine trimEnd_of_last fun c last => visible.isTrimmed.2 c ?_
  rwa [List.getLast?_append_of_ne_nil _ nonempty] at last

end Text

/-- A beginning of a trimmed text is trimmed if it ends with no blank. -/
theorem IsTrimmed.of_append {front back : Text} (trimmed : IsTrimmed (front ++ back))
    (last : ∀ c ∈ front.getLast?, isBlank c = false) : IsTrimmed front := by
  refine ⟨fun c head => trimmed.1 c ?_, last⟩
  rw [Option.mem_def] at head ⊢
  simp [List.head?_append, head]

namespace Cleanup

/-- A declaration on a line, and what stands before it there: it is what stands between two
semicolons, without the blanks around it. -/
def Declares (line before declaration : Text) : Prop :=
  ∃ piece after, line = before ++ piece ++ ';' :: after ∧ ';' ∉ piece ∧
    (before = [] ∨ before.getLast? = some ';') ∧ declaration = Text.trim piece ++ [';']

/-- A text that a step of the clean-up reads up to a semicolon, and writes anew or drops together
with all that follows. -/
inductive IsRewritten (known : List ArrayAlias) (text : Text) : Prop where
  | defines {array : ArrayAlias} : ArrayAlias.ofTypedef? text = some array → IsRewritten known text
  | uses {member : ArrayMember} : ArrayMember.ofLine? text = some member → member.array ∈ known →
    IsRewritten known text
  | renames {type name : Text} : memberParts? text = some (type, name) →
    name ∈ Member.reservedNames → IsRewritten known text

/-- A declaration has no character that its line does not have. -/
theorem Declares.mem {line before declaration : Text} (declared : Declares line before declaration)
    {c : Char} (inside : c ∈ declaration) : c ∈ line := by
  -- Trimming the piece adds nothing, and the semicolon is the one that ends the line's piece.
  obtain ⟨piece, after, rfl, -, -, rfl⟩ := declared
  rcases List.mem_append.mp inside with inPiece | ending
  · simp [Text.mem_of_mem_trim inPiece]
  · simp [List.mem_singleton.mp ending]

/-- A declaration is on a line as it was, with its array written out, or with an underscore after
its reserved name. -/
inductive IsKept (known : List ArrayAlias) (declaration line : Text) : Prop where
  | same {before : Text} : Declares line before declaration → IsKept known declaration line
  | inlined {before : Text} {member : ArrayMember} : ArrayMember.ofLine? declaration = some member →
    member.array ∈ known → Declares line before member.inlined → IsKept known declaration line
  | renamed {before type name : Text} : name ∈ Member.reservedNames →
    (∀ c ∈ type.getLast?, isBlank c = true) → declaration = type ++ name ++ [';'] →
    Declares line before (type ++ name ++ "_;".toList) → IsKept known declaration line

/-- A line is an array's definition by what stands before its first semicolon. -/
theorem IsLine.typedef_head {line : Text} {array : ArrayAlias} (isLine : IsLine line)
    (found : ArrayAlias.ofTypedef? line = some array) :
    ∃ head rest, line = head ++ ';' :: rest ∧ ';' ∉ head ∧ IsTrimmed head ∧
      ∀ other, ArrayAlias.ofTypedef? (head ++ ';' :: other) = some array := by
  obtain ⟨spelled, type, bound, rest, isType, isBound, whole⟩ :=
    ArrayAlias.ofTypedef?_eq_some_iff.mp found
  -- A trimmed line has no indent, so the keyword is its start.
  rw [isLine.skipSpaces_eq] at whole
  -- The three words hold no semicolon, so the head ends at the line's first one.
  have unmarked : ';' ∉ type ∧ ';' ∉ array.name ∧ ';' ∉ bound :=
    ⟨isType.not_mem rfl rfl, spelled.not_mem_name rfl, isBound.not_mem rfl rfl⟩
  have shape : line = "typedef ".toList ++ type ++ [' '] ++ array.name ++ ['['] ++ bound ++ [']'] ++
      ';' :: rest := by simp [whole]
  refine ⟨_, rest, shape, by simp [unmarked], ?_, fun other => ?_⟩
  · refine IsTrimmed.of_append (shape ▸ isLine.trimmed) fun c last => ?_
    obtain rfl : ']' = c := Option.some.inj (List.getLast?_concat.symm.trans last)
    decide
  · -- The reader skips whatever stands behind the semicolon.
    exact ArrayAlias.ofTypedef?_eq_some_iff.mpr
      ⟨spelled, type, bound, other, isType, isBound, by simp [skipSpaces]⟩

/-- A line declares a member with an array name by what stands before its first semicolon. -/
theorem IsLine.member_head {line : Text} {member : ArrayMember} (isLine : IsLine line)
    (found : ArrayMember.ofLine? line = some member) :
    ∃ head rest, line = head ++ ';' :: rest ∧ ';' ∉ head ∧ IsTrimmed head ∧
      ∀ other, ArrayMember.ofLine? (head ++ ';' :: other) = some member := by
  obtain ⟨indent, spelled, isName, rest, whole⟩ := ArrayMember.ofLine?_eq_some_iff.mp found
  -- As with a definition, the two words hold no semicolon.
  rw [isLine.skipSpaces_eq] at whole
  have unmarked : ';' ∉ member.array.name ++ [' '] ++ member.name := by
    simp [spelled.not_mem_name (c := ';') rfl, isName.not_mem (c := ';') rfl rfl]
  have named : member.name ≠ [] := fun empty => by simp [empty, IsMemberName, IsWordOf] at isName
  have shape : line = member.array.name ++ [' '] ++ member.name ++ ';' :: rest := by simp [whole]
  -- Whatever follows, the line starts as it did.
  have started (other : Text) :
      (member.array.name ++ [' '] ++ member.name ++ ';' :: other).head? = line.head? := by
    rw [shape]
    cases member.array.name <;> rfl
  refine ⟨_, rest, shape, unmarked, ?_, fun other => ?_⟩
  · refine IsTrimmed.of_append (shape ▸ isLine.trimmed) fun c last => ?_
    rw [List.getLast?_append_of_ne_nil _ named] at last
    have inName := List.mem_of_mem_getLast? last
    exact isBlank_of_isMemberChar ((of_ofLine? found).2.2 c (by simp [inName]))
  · -- The indent is read off the start of the line, which the rest does not change.
    obtain ⟨noIndent, noSpaces⟩ := no_indent (by rw [started other]; exact isLine.head_ne_space)
    refine ArrayMember.ofLine?_eq_some_iff.mpr ⟨?_, spelled, isName, other, ?_⟩
    · rw [indent, isLine.indent_eq, noIndent]
    · rw [noSpaces]
      simp

/-- A line declares a name by its first space and the semicolon behind it. -/
theorem memberParts?_eq_some_iff {line type name : Text} :
    memberParts? line = some (type, name) ↔
      ' ' ∉ type ∧ ';' ∉ name ∧ ∃ rest, line = type ++ ' ' :: (name ++ ';' :: rest) := by
  simp only [memberParts?, Option.bind_eq_bind, Option.bind_eq_some_iff, Option.pure_def,
    Option.some.injEq, Prod.mk.injEq, Prod.exists]
  constructor
  · -- The two cuts find the first space, and behind it the first semicolon.
    rintro ⟨type, _, first, name, rest, second, rfl, rfl⟩
    obtain ⟨noSpace, rfl⟩ := Text.of_breakAt? first
    obtain ⟨unmarked, rfl⟩ := Text.of_breakAt? second
    exact ⟨noSpace, unmarked, rest, rfl⟩
  · rintro ⟨noSpace, unmarked, rest, rfl⟩
    exact ⟨type, _, Text.breakAt?_append noSpace _, name, rest, Text.breakAt?_append unmarked rest,
      rfl, rfl⟩

/-- A member whose array was written out is a declaration. -/
theorem declares_inlined {line : Text} {member : ArrayMember} (isLine : IsLine line)
    (found : ArrayMember.ofLine? line = some member) :
    Declares member.inlined [] member.inlined := by
  -- Written out, the member is one piece up to its only semicolon.
  obtain ⟨-, spelled, isName, -⟩ := ArrayMember.ofLine?_eq_some_iff.mp found
  have shape : member.inlined = member.array.element ++ [' '] ++ member.name ++ ['['] ++
      member.array.length ++ [']'] ++ [';'] := by simp [ArrayMember.inlined_eq isLine found]
  have unmarked : ';' ∉ member.array.element ++ [' '] ++ member.name ++ ['['] ++
      member.array.length ++ [']'] := by
    simp [spelled.element.not_mem (c := ';') rfl rfl, spelled.length.not_mem (c := ';') rfl rfl,
      isName.not_mem (c := ';') rfl rfl]
  -- It starts where the line started and ends with a bracket, so trimming keeps it.
  have trimmed : IsTrimmed (member.array.element ++ [' '] ++ member.name ++ ['['] ++
      member.array.length ++ [']']) := by
    refine IsTrimmed.of_append (shape ▸ (isLine.inlined found).1.trimmed) fun c last => ?_
    obtain rfl : ']' = c := Option.some.inj (List.getLast?_concat.symm.trans last)
    decide
  refine ⟨member.array.element ++ [' '] ++ member.name ++ ['['] ++ member.array.length ++ [']'], [],
    shape, unmarked, .inl rfl, ?_⟩
  rw [Text.trim_of_isTrimmed trimmed, shape]

/-- What ends with a semicolon ends before a space that no semicolon follows. -/
theorem split_before_name {type name before piece : Text}
    (whole : type ++ ' ' :: name = before ++ piece) (unmarked : ';' ∉ name)
    (start : before = [] ∨ before.getLast? = some ';') :
    ∃ gap, type = before ++ gap ∧ piece = gap ++ ' ' :: name := by
  -- A front that reached into the name would end with a semicolon there.
  rcases List.append_eq_append_iff.mp whole with ⟨more, longer, same⟩ | ⟨gap, shorter, same⟩
  · cases more with
    | nil => exact ⟨[], by simpa using longer.symm, by simpa using same.symm⟩
    | cons c more =>
      obtain ⟨rfl, rfl⟩ := List.cons.inj same
      rcases start with empty | last
      · simp [empty] at longer
      · rw [longer, List.getLast?_append_of_ne_nil _ (by simp)] at last
        have inside := List.mem_of_mem_getLast? last
        simp only [List.mem_cons] at inside
        exact absurd (by simp [inside.resolve_left (by decide)]) unmarked
  · exact ⟨gap, shorter, same⟩

section

variable {known : List ArrayAlias} {line before declaration : Text}

/-- A declaration is all that stands up to the first semicolon of its line, or it stands behind
that. -/
theorem Declares.first_or_behind {head rest : Text}
    (declared : Declares (head ++ ';' :: rest) before declaration) (unmarked : ';' ∉ head)
    (trimmed : IsTrimmed head) :
    declaration = head ++ [';'] ∨ ∃ more, before = head ++ ';' :: more := by
  obtain ⟨piece, after, whole, absent, start, rfl⟩ := declared
  rcases Text.place_cases whole absent with ⟨more, inside⟩ | upTo | behind
  · exact absurd (by simp [inside]) unmarked
  · -- What comes before would end with a semicolon, and there is none up to the first.
    obtain rfl : before = [] := start.resolve_right fun last =>
      unmarked (by simp [upTo, List.mem_of_mem_getLast? last])
    obtain rfl : head = piece := upTo
    exact .inl (by rw [Text.trim_of_isTrimmed trimmed])
  · exact .inr behind

/-- A line defines no array if its declaration defines none and stands behind none. -/
theorem Declares.noTypedef (isLine : IsLine line) (declared : Declares line before declaration)
    (noArray : ArrayAlias.ofTypedef? declaration = none) (free : ¬ IsRewritten known before) :
    ArrayAlias.ofTypedef? line = none := by
  -- The array of a line stands before its first semicolon, where the declaration is or is not.
  cases found : ArrayAlias.ofTypedef? line with
  | none => rfl
  | some array =>
    obtain ⟨head, rest, rfl, unmarked, trimmed, first⟩ := isLine.typedef_head found
    rcases declared.first_or_behind unmarked trimmed with rfl | ⟨more, rfl⟩
    · rw [first []] at noArray
      cases noArray
    · exact absurd (.defines (first more)) free

/-- Of a line with a member of a known array, the declaration of that member is kept. -/
theorem Declares.kept_inlined (isLine : IsLine line) (declared : Declares line before declaration)
    (free : ¬ IsRewritten known before) {member : ArrayMember}
    (found : ArrayMember.ofLine? line = some member) (isKnown : member.array ∈ known) :
    IsKept known declaration member.inlined := by
  have inlined := declares_inlined isLine found
  obtain ⟨head, rest, rfl, unmarked, trimmed, first⟩ := isLine.member_head found
  -- The member stands before the first semicolon: it is the declaration, or it stands before it.
  rcases declared.first_or_behind unmarked trimmed with rfl | ⟨more, rfl⟩
  · exact .inlined (first []) isKnown inlined
  · exact absurd (.uses (first more) isKnown) free

/-- Of a line with a reserved name, what stands up to that name is kept. -/
theorem Declares.kept_renamed (declared : Declares line before declaration)
    (free : ¬ IsRewritten known before) : IsKept known declaration (renameReserved line) := by
  rcases renameReserved_cases line with same | ⟨type, name, rest, noSpace, reserved, rfl, renamed⟩
  · rw [same]
    exact .same declared
  rw [renamed]
  have checked : ∀ name ∈ Member.reservedNames,
      IsVisibleText name ∧ name ≠ [] ∧ ';' ∉ name := by decide
  obtain ⟨visible, nonempty, unmarked⟩ := checked name reserved
  obtain ⟨piece, after, whole, absent, start, rfl⟩ := declared
  have cut : type ++ ' ' :: name ++ ';' :: rest = before ++ piece ++ ';' :: after := by
    simpa using whole
  rcases Text.place_cases cut absent with ⟨more, inside⟩ | upTo | ⟨more, behind⟩
  · -- What stands before the name is as it was.
    refine .same ⟨piece, more ++ ['_', ';'], ?_, absent, start, rfl⟩
    simpa using congrArg (· ++ ['_', ';']) inside
  · -- The name is the declaration's, with what stands before it.
    obtain ⟨gap, rfl, rfl⟩ := split_before_name upTo unmarked start
    have trimmed {word : Text} (visible : IsVisibleText word) (nonempty : word ≠ []) :
        Text.trim (gap ++ ' ' :: word) = Text.trimStart (gap ++ [' ']) ++ word := by
      rw [← Text.trim_append_word visible nonempty, List.append_assoc, List.singleton_append]
    have ending : IsVisibleText (name ++ ['_']) := isVisibleText_append.mpr ⟨visible, by decide⟩
    have blank : ∀ c ∈ (Text.trimStart (gap ++ [' '])).getLast?, isBlank c = true := by
      -- What is left of a text with a blank at its end has it there, too.
      intro c last
      obtain ⟨gone, suffix⟩ := List.dropWhile_suffix (l := gap ++ [' ']) isBlank
      have same : (gap ++ [' ']).getLast? = some c := by
        rw [← suffix, List.getLast?_append]
        simp [show (List.dropWhile isBlank (gap ++ [' '])).getLast? = some c from last]
      obtain rfl : ' ' = c := by simpa using same
      decide
    refine .renamed reserved blank (by rw [trimmed visible nonempty])
      ⟨gap ++ ' ' :: (name ++ ['_']), [], ?_, ?_, start, ?_⟩
    · simp
    · simpa using absent
    · rw [trimmed ending (by simp)]
      simp
  · exact absurd (.renames (memberParts?_eq_some_iff.mpr
      ⟨noSpace, unmarked, more, by simpa using behind⟩) reserved) free

end

/-- What is on a line is kept by the steps of the clean-up that come after the guards. -/
theorem Declares.kept {known : List ArrayAlias} {line before declaration : Text}
    (isLine : IsLine line) (declared : Declares line before declaration)
    (noArray : ArrayAlias.ofTypedef? declaration = none) (noComment : isComment line = false)
    (free : ¬ IsRewritten known before) :
    ∃ out, outcome? known line = some out ∧ IsKept known declaration out := by
  -- Either the line is a member to be written out, or it is kept up to a renaming.
  by_cases uses : ∃ member, ArrayMember.ofLine? line = some member ∧ member.array ∈ known
  · obtain ⟨member, found, isKnown⟩ := uses
    exact ⟨member.inlined, outcome?_of_known isLine found isKnown,
      declared.kept_inlined isLine free found isKnown⟩
  · have noTypedef := declared.noTypedef isLine noArray free
    refine ⟨renameReserved line, ?_, declared.kept_renamed free⟩
    rw [outcome?_of_unknown noTypedef fun member found isKnown => uses ⟨member, found, isKnown⟩]
    simp [noComment]

end Cleanup

open Cleanup

/-- The clean-up keeps every declaration that defines no array, that is on no line taken for a
comment, and that does not stand behind the first semicolon of a line that is written anew. -/
theorem cleanUp_keeps_declaration {text line before declaration : Text} {earlier later : List Text}
    (pieces : Text.cut '\n' text = earlier ++ line :: later)
    (declared : Declares (Text.trim line) before declaration)
    (noArray : ArrayAlias.ofTypedef? declaration = none)
    (noComment : isComment (Text.trim line) = false)
    (free : ¬ IsRewritten (definedBy earlier) before) :
    ∃ out ∈ Text.cut '\n' (cleanUp text), IsKept (definedBy earlier) declaration out := by
  -- A line that declares something is not dropped as a blank one.
  have nonempty : Text.trim line ≠ [] := fun empty => by
    obtain ⟨piece, after, whole, -⟩ := declared
    simp [empty] at whole
  have isLine : IsLine (Text.trim line) :=
    isLine_of_mem_visible pieces (mem_visible.mpr ⟨nonempty, line, by simp, rfl⟩)
  obtain ⟨out, becomes, kept⟩ := declared.kept isLine noArray noComment free
  -- The arrays known at the line are those that the earlier lines defined.
  obtain ⟨known, back, same, whole, woven⟩ := cleanLines_append pieces
  have first : visible (line :: later) = Text.trim line :: visible later := by
    simp [visible, nonempty]
  refine ⟨out, mem_cut_cleanUp ?_, kept⟩
  rw [whole]
  refine List.mem_append_right _ (woven.mem ?_)
  -- Of what the later lines give, the first is what the line becomes.
  rw [first, finish_cons, outcome?_congr same, becomes]
  simp

/-- The first declaration of a line is kept with its array written out. -/
theorem cleanUp_keeps_declaration_of_array :
    let line := "  double__9 x; long y;".toList
    let text := "typedef double double__9[9];\n".toList ++ line
    let earlier := ["typedef double double__9[9];".toList]
    Text.cut '\n' text = earlier ++ [line] ∧
      Declares (Text.trim line) [] "double__9 x;".toList ∧
      ArrayAlias.ofTypedef? "double__9 x;".toList = none ∧ isComment (Text.trim line) = false ∧
      ¬ IsRewritten (definedBy earlier) [] ∧
      ∃ out ∈ Text.cut '\n' (cleanUp text),
        IsKept (definedBy earlier) "double__9 x;".toList out := by
  intro line text earlier
  have pieces : Text.cut '\n' text = earlier ++ [line] := by decide
  have declared : Declares (Text.trim line) [] "double__9 x;".toList :=
    ⟨"double__9 x".toList, " long y;".toList, by decide, by decide, .inl rfl, by decide⟩
  have noArray : ArrayAlias.ofTypedef? "double__9 x;".toList = none := by decide
  have noComment : isComment (Text.trim line) = false := by decide
  -- There is no front here, so none of the three ways to be written anew applies.
  have free : ¬ IsRewritten (definedBy earlier) [] := fun rewritten => by
    rcases rewritten with found | ⟨found, -⟩ | ⟨found, -⟩ <;> cases found
  exact ⟨pieces, declared, noArray, noComment, free,
    cleanUp_keeps_declaration pieces declared noArray noComment free⟩

/-- What stands behind a member with a reserved name is lost. -/
theorem cleanUp_loses_declaration :
    let line := "long sequence; long x;".toList
    Declares (Text.trim line) "long sequence;".toList "long x;".toList ∧
      ArrayAlias.ofTypedef? "long x;".toList = none ∧ isComment (Text.trim line) = false ∧
      cleanUp line = "long sequence_;\n".toList ∧
      ∀ known, ∀ out ∈ Text.cut '\n' (cleanUp line), ¬ IsKept known "long x;".toList out := by
  intro line
  have cleaned : cleanUp line = "long sequence_;\n".toList := by decide
  refine ⟨⟨" long x".toList, [], by decide, by decide, .inr rfl, by decide⟩, by decide, by decide,
    cleaned, fun known out listed kept => ?_⟩
  -- The name that is lost is a letter that the whole result does not have.
  have noName : 'x' ∉ out := fun inside => by
    have inText := (Text.of_mem_cut listed).2 'x' inside
    rw [cleaned] at inText
    exact absurd inText (by decide)
  cases kept with
  | same declared => exact noName (declared.mem (by decide))
  | inlined found =>
    have noMember : ArrayMember.ofLine? "long x;".toList = none := by decide
    rw [noMember] at found
    cases found
  -- No reserved name is short of the letter s, and the declaration has none.
  | @renamed _ type name reserved _ same =>
    have starts : ∀ name ∈ Member.reservedNames, 's' ∈ name := by decide
    have inside : 's' ∈ "long x;".toList := by simp [same, starts name reserved]
    exact absurd inside (by decide)

end IdlScout
