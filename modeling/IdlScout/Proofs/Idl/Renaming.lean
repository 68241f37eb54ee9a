import IdlScout.Proofs.Idl.Retention

/-! Reserved names in text that is passed through: the clean-up renames a member as the printer does
where the member's type has no space in it, and leaves it where the type has one. -/

namespace IdlScout

/-- A member as it is written, with one space before its name. -/
structure SpacedMember where
  type : Text
  name : Text
  typed : type ≠ []
  trimmed : IsTrimmed type
  /-- Annotations, strings and lines of the preprocessor are no types. -/
  unsigned : Text.Lacks type.head?.toList ['@', '"', '#']
  plain : Text.Lacks type [';', '\n']
  named : name ≠ []
  visible : IsVisibleText name
  /-- The bounds of an array are no part of a name. -/
  solid : Text.Lacks name [';', ']']

namespace SpacedMember

/-- The member without a semicolon. -/
def text (member : SpacedMember) : Text :=
  member.type ++ ' ' :: member.name

variable (member : SpacedMember)

/-- A member starts as its type does. -/
theorem head_line : (member.text ++ [';']).head? = member.type.head? := by
  rw [text, List.append_assoc, List.head?_append_of_ne_nil _ member.typed]

/-- With its semicolon, a member is a line. -/
theorem isLine : Cleanup.IsLine (member.text ++ [';']) := by
  -- The parts in order: not empty, no blank at either end, one line.
  refine ⟨by simp, ⟨fun c first => ?_, fun c last => ?_⟩, ?_⟩
  · rw [head_line] at first
    exact member.trimmed.1 c first
  · obtain rfl : ';' = c := Option.some.inj (List.getLast?_concat.symm.trans last)
    decide
  · have inType : '\n' ∉ member.type := fun inside => member.plain _ inside (by simp)
    have inName : '\n' ∉ member.name := fun inside =>
      absurd (member.visible _ inside) (by decide)
    simp [text, inType, inName]

/-- No semicolon stands in a member. -/
theorem unmarked : ';' ∉ member.text := by
  have inType : ';' ∉ member.type := fun inside => member.plain _ inside (by simp)
  have inName : ';' ∉ member.name := fun inside => member.solid _ inside (by simp)
  simp [text, inType, inName]

/-- A member defines no array, as no bracket stands right before its semicolon. -/
theorem noTypedef : Cleanup.ArrayAlias.ofTypedef? (member.text ++ [';']) = none := by
  cases found : Cleanup.ArrayAlias.ofTypedef? (member.text ++ [';']) with
  | none => rfl
  | some array =>
    obtain ⟨spelled, element, bound, rest, isElement, isBound, whole⟩ :=
      Cleanup.ArrayAlias.ofTypedef?_eq_some_iff.mp found
    have absent : ';' ∉ "typedef ".toList ++ element ++ [' '] ++ array.name ++ ['['] ++ bound ++
        [']'] := by
      simp [isElement.not_mem (c := ';') rfl rfl, spelled.not_mem_name (c := ';') rfl,
        isBound.not_mem (c := ';') rfl rfl]
    -- Both texts end at their only semicolon.
    have same : member.text =
        "typedef ".toList ++ element ++ [' '] ++ array.name ++ ['['] ++ bound ++ [']'] := by
      rw [member.isLine.skipSpaces_eq] at whole
      have cut : member.text ++ ';' :: [] = ("typedef ".toList ++ element ++ [' '] ++ array.name ++
          ['['] ++ bound ++ [']']) ++ ';' :: rest := by simpa using whole
      exact ((List.append_cons_inj_of_notMem member.unmarked List.not_mem_nil).mp cut).1
    have last : member.name.getLast? = some ']' := by
      have ending := congrArg List.getLast? same
      rw [List.getLast?_concat, text, List.getLast?_append_of_ne_nil _ (by simp),
        List.getLast?_cons_of_ne_nil member.named] at ending
      exact ending
    exact absurd (by simp) (member.solid ']' (List.mem_of_mem_getLast? last))

/-- A member is in no comment. -/
theorem noComment : Cleanup.isComment (member.text ++ [';']) = false := by
  -- The first character is neither that of an annotation nor a quote.
  refine Cleanup.isComment_of_head member.isLine fun c first => ?_
  rw [head_line] at first
  have unsigned := member.unsigned c (Option.mem_toList.mpr first)
  simp only [List.mem_cons, not_or] at unsigned
  exact ⟨unsigned.1, unsigned.2.1⟩

/-- Of all steps of the clean-up, only the renaming of reserved names is about members. -/
theorem cleanUp_line :
    cleanUp (member.text ++ [';']) = Cleanup.renameReserved (member.text ++ [';']) ++ ['\n'] := by
  have isLine := member.isLine
  -- The first passes leave the line alone, each for a reason of its own.
  have alone : Cleanup.dropEmpty (member.text ++ [';']) = [member.text ++ [';']] := by
    simp [Cleanup.dropEmpty, Text.cut_of_not_mem isLine.single,
      Text.trim_of_isTrimmed isLine.trimmed]
  have noSign : Cleanup.GuardSign.ofLine? (member.text ++ [';']) = none := by
    refine Cleanup.GuardSign.ofLine?_of_head fun sign => ?_
    rw [head_line] at sign
    exact member.unsigned '#' (Option.mem_toList.mpr sign) (by simp)
  have unguarded : Cleanup.guardIncludes false [member.text ++ [';']] = [member.text ++ [';']] :=
    Cleanup.guardIncludes_of_guarded (by simp [noSign, Cleanup.GuardSign.Guarded])
  have lines : Cleanup.cleanLines (member.text ++ [';']) =
      [Cleanup.renameReserved (member.text ++ [';'])] := by
    rw [Cleanup.cleanLines, alone, unguarded,
      Cleanup.inlineArrays_of_noTypedef (by simpa using member.noTypedef)]
    simp [member.noComment]
  simp [cleanUp, lines]

/-- The clean-up looks for a name behind the first space, so it finds one only behind a type without
spaces. -/
theorem cleanUp_eq : cleanUp (member.text ++ [';']) =
    if ' ' ∉ member.type ∧ member.name ∈ Member.reservedNames then member.text ++ "_;\n".toList
    else member.text ++ ";\n".toList := by
  have unmarked : ';' ∉ member.type ∧ ';' ∉ member.name := by simpa [text] using member.unmarked
  rw [cleanUp_line, Cleanup.renameReserved]
  by_cases spaced : ' ' ∈ member.type
  · -- What stands between the first space and the semicolon is more than a name.
    obtain ⟨first, more, whole, absent⟩ := List.eq_append_cons_of_mem spaced
    have inMore : ';' ∉ more := fun inside => unmarked.1 (by simp [whole, inside])
    have parts : Cleanup.memberParts? (member.text ++ [';']) =
        some (first, more ++ ' ' :: member.name) :=
      Cleanup.memberParts?_eq_some_iff.mpr
        ⟨absent, by simp [inMore, unmarked.2], [], by simp [text, whole]⟩
    have checked : ∀ name ∈ Member.reservedNames, ' ' ∉ name := by decide
    have unreserved : more ++ ' ' :: member.name ∉ Member.reservedNames := fun listed =>
      checked _ listed (by simp)
    simp [parts, unreserved, spaced]
  · -- Without a space in the type, the two parts are those of the member.
    have parts : Cleanup.memberParts? (member.text ++ [';']) = some (member.type, member.name) :=
      Cleanup.memberParts?_eq_some_iff.mpr ⟨spaced, unmarked.2, [], by simp [text]⟩
    rw [parts]
    by_cases reserved : member.name ∈ Member.reservedNames <;> simp [reserved, spaced, text]

/-- The printer splits a member at its last blank, whatever its type. -/
theorem renameReserved_eq : Member.renameReserved member.text =
    if member.name ∈ Member.reservedNames then member.text ++ ['_'] else member.text := by
  -- A visible name has no blank, so the last one is before it.
  have parts : Text.breakLastBlank? member.text = some (member.type, member.name) :=
    Text.breakLast?_append (by decide) member.type member.visible
  rw [Member.renameReserved, parts]
  by_cases reserved : member.name ∈ Member.reservedNames <;>
    simp [Text.trimEnd_of_last member.trimmed.2, reserved, text]

end SpacedMember

/-- A member is renamed alike by the clean-up, with its semicolon, and by the printer, without it,
unless its name is reserved and its type has a space in it. -/
theorem cleanUp_renames_iff (member : SpacedMember) :
    cleanUp (member.text ++ [';']) = Member.renameReserved member.text ++ ";\n".toList ↔
      (' ' ∈ member.type → member.name ∉ Member.reservedNames) := by
  rw [member.cleanUp_eq, member.renameReserved_eq]
  by_cases reserved : member.name ∈ Member.reservedNames
  · by_cases spaced : ' ' ∈ member.type <;> simp [reserved, spaced]
  · simp [reserved]

/-- A type with template arguments, in one word. -/
theorem cleanUp_renames_member_of_one_word :
    cleanUp "sequence<T,3> struct;".toList =
      Member.renameReserved "sequence<T,3> struct".toList ++ ";\n".toList :=
  (cleanUp_renames_iff ⟨"sequence<T,3>".toList, "struct".toList, by decide, by decide, by decide,
    by decide, by decide, by decide, by decide⟩).mpr (by decide)

/-- A reserved name is kept behind a type of two words. -/
theorem cleanUp_keeps_reserved_name :
    let member : SpacedMember := ⟨"unsigned long".toList, "sequence".toList, by decide, by decide,
      by decide, by decide, by decide, by decide, by decide⟩
    cleanUp (member.text ++ [';']) = "unsigned long sequence;\n".toList ∧
      Member.renameReserved member.text = "unsigned long sequence_".toList ∧
      cleanUp (member.text ++ [';']) ≠ Member.renameReserved member.text ++ ";\n".toList := by
  decide

end IdlScout
