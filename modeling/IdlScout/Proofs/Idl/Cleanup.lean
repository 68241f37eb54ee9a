import IdlScout.Proofs.Idl.Guards

/-! Text that was cleaned up is left as it is by another clean-up. -/

namespace IdlScout
namespace Cleanup

open GuardSign

/-- A character of a primitive type's name, a length, or the name of a member. -/
def isMemberChar (c : Char) : Bool :=
  isLowerOrDigit c || c == '_'

/-- No such character is blank. -/
theorem isBlank_of_isMemberChar {c : Char} (word : isMemberChar c = true) : isBlank c = false := by
  rw [Bool.eq_false_iff]
  intro blank
  -- One check of the few blanks says that none of them is a character of a word.
  have apart : (!isMemberChar c) = true :=
    of_isBlank (p := fun c => !isMemberChar c) (by decide) blank
  simp [word] at apart

/-- A word that is taken is the beginning of the text. -/
theorem of_takeWord? {isFirst isNext : Char → Bool} {text word rest : Text}
    (found : takeWord? isFirst isNext text = some (word, rest)) :
    text = word ++ rest ∧ ∃ c more, word = c :: more ∧ isFirst c = true ∧
      ∀ d ∈ more, isNext d = true := by
  cases text with
  | nil => simp [takeWord?] at found
  | cons c tail =>
    -- The reader is one test of the first character and two scans of the others.
    obtain ⟨first, rfl, rfl⟩ : isFirst c = true ∧ c :: tail.takeWhile isNext = word ∧
        tail.dropWhile isNext = rest := by
      simpa only [takeWord?, Option.ite_none_right_eq_some, Option.some.injEq, Prod.mk.injEq]
        using found
    exact ⟨by simp, c, _, rfl, first, fun d member => List.mem_takeWhile_imp member⟩

/-- The words of an array's name. -/
theorem of_take? {text rest : Text} {array : ArrayAlias}
    (found : ArrayAlias.take? text = some (array, rest)) :
    (∃ c, array.element.head? = some c ∧ text.head? = some c ∧ isLower c = true) ∧
      ∀ c ∈ array.element ++ array.length, isMemberChar c = true := by
  simp only [ArrayAlias.take?, Option.bind_eq_bind, Option.bind_eq_some_iff, Option.pure_def,
    Option.some.injEq, Prod.mk.injEq, Prod.exists] at found
  -- The reader is a chain of optional steps; each one that is opened names a part of the text.
  obtain ⟨element, _, named, _, _, length, _, numbered, rfl, rfl⟩ := found
  obtain ⟨rfl, c, more, rfl, first, others⟩ := of_takeWord? named
  obtain ⟨-, d, digits, rfl, positive, digit⟩ := of_takeWord? numbered
  refine ⟨⟨c, rfl, rfl, first⟩, fun e member => ?_⟩
  -- The first digit of a length is no zero, so it is checked apart from the others.
  have isDigit : isAsciiDigit d = true := by
    simp only [isPositiveDigit, isAsciiDigit, Bool.and_eq_true, decide_eq_true_eq] at positive ⊢
    exact ⟨Char.le_trans (by decide) positive.1, positive.2⟩
  simp only [List.mem_append, List.mem_cons] at member
  rcases member with (rfl | inElement) | rfl | inLength
  · simp [isMemberChar, isLowerOrDigit, first]
  · simp [isMemberChar, others e inElement]
  · simp [isMemberChar, isLowerOrDigit, isDigit]
  · simp [isMemberChar, isLowerOrDigit, digit e inLength]

/-- The words of a member that has an array's name for its type. -/
theorem of_ofLine? {line : Text} {member : ArrayMember}
    (found : ArrayMember.ofLine? line = some member) :
    member.indent = line.takeWhile (· == ' ') ∧
      (∃ c, member.array.element.head? = some c ∧ (skipSpaces line).head? = some c ∧
        isLower c = true) ∧
      ∀ c ∈ member.array.element ++ member.name ++ member.array.length,
        isMemberChar c = true := by
  simp only [ArrayMember.ofLine?, Option.bind_eq_bind, Option.bind_eq_some_iff, Option.pure_def,
    Option.some.injEq, Prod.exists] at found
  obtain ⟨array, _, typed, _, _, name, _, named, _, _, rfl⟩ := found
  -- The name of the array is read as above; the member's own name is one more word.
  obtain ⟨first, ofArray⟩ := of_take? typed
  obtain ⟨-, c, more, rfl, start, others⟩ := of_takeWord? named
  refine ⟨rfl, first, fun d member => ?_⟩
  simp only [List.mem_append, List.mem_cons] at member ofArray
  rcases member with (inElement | rfl | inName) | inLength
  · exact ofArray d (.inl inElement)
  · simp only [Bool.or_eq_true, beq_iff_eq] at start
    -- An underscore may start a member's name, though no array's.
    rcases start with lower | rfl
    · simp [isMemberChar, isLowerOrDigit, lower]
    · rfl
  · exact others d inName
  · exact ofArray d (.inr inLength)

/-- A line that defines an array starts with a letter and has two spaces. -/
theorem of_ofTypedef? {line : Text} {array : ArrayAlias}
    (found : ArrayAlias.ofTypedef? line = some array) :
    (skipSpaces line).head? = some 't' ∧ 2 ≤ line.count ' ' := by
  simp only [ArrayAlias.ofTypedef?, Option.bind_eq_bind, Option.bind_eq_some_iff, Option.pure_def,
    Option.some.injEq, Prod.exists] at found
  obtain ⟨rest, start, type, _, typed, after, separated, -⟩ := found
  have whole := List.isPrefixOf?_eq_some_iff_append_eq.mp start
  obtain ⟨rfl, -⟩ := of_takeWord? typed
  obtain rfl := List.isPrefixOf?_eq_some_iff_append_eq.mp separated
  -- One space stands behind the keyword and one behind the type.
  have first : "typedef ".toList.count ' ' = 1 := by decide
  have fewer : (skipSpaces line).count ' ' ≤ line.count ' ' :=
    (List.dropWhile_suffix _).sublist.count_le _
  rw [← whole] at fewer ⊢
  rw [List.count_append, first, List.count_append, List.singleton_append, List.count_cons_self]
    at fewer
  exact ⟨rfl, by omega⟩

/-- A text with one space defines no array. -/
theorem ofTypedef?_of_one_space {before after : Text} (first : ' ' ∉ before) (last : ' ' ∉ after) :
    ArrayAlias.ofTypedef? (before ++ ' ' :: after) = none := by
  -- A definition has two spaces, so that it cannot be read here.
  cases found : ArrayAlias.ofTypedef? (before ++ ' ' :: after) with
  | none => rfl
  | some array =>
    have several := (of_ofTypedef? found).2
    rw [List.count_append, List.count_cons_self, List.count_eq_zero.mpr first,
      List.count_eq_zero.mpr last] at several
    omega

/-- A text that starts with no space has none to take and none to skip. -/
theorem no_indent {text : Text} (head : text.head? ≠ some ' ') :
    text.takeWhile (· == ' ') = [] ∧ skipSpaces text = text := by
  cases text with
  | nil => exact ⟨rfl, rfl⟩
  | cons c rest =>
    have other : c ≠ ' ' := fun same => head (by rw [same]; rfl)
    simp [skipSpaces, other]

namespace IsLine

variable {line : Text}

/-- No space stands before a line. -/
theorem head_ne_space (isLine : IsLine line) : line.head? ≠ some ' ' := fun first => by
  have visible := isLine.trimmed.1 ' ' first
  simp [isBlank] at visible

/-- There are no spaces to skip. -/
theorem skipSpaces_eq (isLine : IsLine line) : skipSpaces line = line :=
  (no_indent isLine.head_ne_space).2

/-- There are no spaces to take. -/
theorem indent_eq (isLine : IsLine line) : line.takeWhile (· == ' ') = [] :=
  (no_indent isLine.head_ne_space).1

/-- A member whose array was written out is a line that defines no array and is nothing to the
guards. -/
theorem inlined (isLine : IsLine line) {member : ArrayMember}
    (found : ArrayMember.ofLine? line = some member) :
    IsLine member.inlined ∧ ArrayAlias.ofTypedef? member.inlined = none ∧
      ofLine? member.inlined = none := by
  obtain ⟨indent, ⟨c, first, -, lower⟩, word⟩ := of_ofLine? found
  -- The words hold neither spaces nor ends of lines, so the only space is the one between them.
  have plain : ∀ d ∈ member.array.element ++ member.name ++ member.array.length,
      d ≠ ' ' ∧ d ≠ '\n' := fun d inside => by
    have chars := word d inside
    constructor <;> rintro rfl <;>
      simp [isMemberChar, isLowerOrDigit, isLower, isAsciiDigit] at chars
  have lacks : ∀ d, d = ' ' ∨ d = '\n' → d ∉ member.array.element ∧ d ∉ member.name ∧
      d ∉ member.array.length := fun d either => by
    refine ⟨fun inside => ?_, fun inside => ?_, fun inside => ?_⟩ <;>
      exact either.elim (plain d (by simp [inside])).1 (plain d (by simp [inside])).2
  have shape : member.inlined = member.array.element ++ ' ' ::
      (member.name ++ '[' :: (member.array.length ++ [']', ';'])) := by
    have bracket : "];".toList = [']', ';'] := rfl
    simp [ArrayMember.inlined, indent, isLine.indent_eq, bracket]
  have head : member.inlined.head? = some c := by simp [shape, first]
  have last : member.inlined.getLast? = some ';' := by
    have closed : member.inlined = member.array.element ++ ' ' ::
        (member.name ++ '[' :: (member.array.length ++ [']'])) ++ [';'] := by simp [shape]
    rw [closed, List.getLast?_concat]
  -- The parts of being a line in order: not empty, no blank at either end, and no line ending.
  refine ⟨⟨?_, ⟨fun d at_ => ?_, fun d at_ => ?_⟩, ?_⟩, ?_, ?_⟩
  · simp [shape]
  · obtain rfl : c = d := Option.some.inj (head.symm.trans at_)
    exact isBlank_of_isMemberChar (word c (by simp [List.mem_of_mem_head? first]))
  · obtain rfl : ';' = d := Option.some.inj (last.symm.trans at_)
    decide
  · simp [shape, lacks]
  · rw [shape]
    exact ofTypedef?_of_one_space (lacks ' ' (.inl rfl)).1 (by simp [lacks])
  · refine ofLine?_of_head fun sign => ?_
    obtain rfl : c = '#' := Option.some.inj (head.symm.trans sign)
    simp [isLower] at lower

end IsLine

/-- Lines whose arrays were handled define none, and are as before or have an array written out. -/
theorem of_mem_inlineArrays {known : List ArrayAlias} {lines : List Text} {line : Text}
    (member : line ∈ inlineArrays known lines) :
    (line ∈ lines ∧ ArrayAlias.ofTypedef? line = none) ∨
      ∃ other ∈ lines, ∃ array, ArrayMember.ofLine? other = some array ∧ line = array.inlined := by
  induction lines generalizing known with
  | nil => simp [inlineArrays] at member
  | cons first rest ih =>
    -- What holds of the lines behind the first one holds of them among all lines.
    have later : ∀ {known}, line ∈ inlineArrays known rest →
        (line ∈ first :: rest ∧ ArrayAlias.ofTypedef? line = none) ∨ ∃ other ∈ first :: rest,
          ∃ array, ArrayMember.ofLine? other = some array ∧ line = array.inlined := fun inRest =>
      (ih inRest).imp (fun kept => ⟨List.mem_cons_of_mem _ kept.1, kept.2⟩)
        fun ⟨other, listed, written⟩ => ⟨other, List.mem_cons_of_mem _ listed, written⟩
    rw [inlineArrays] at member
    split at member
    · -- A definition is dropped, and its array is known to the lines after it.
      exact later member
    · rename_i noTypedef
      -- A member is written out if its array is known, and kept if it is not.
      split at member
      · rename_i array found
        rcases List.mem_cons.mp member with rfl | inRest
        · split
          · exact .inr ⟨first, by simp, array, found, rfl⟩
          · exact .inl ⟨by simp, noTypedef⟩
        · exact later inRest
      · rcases List.mem_cons.mp member with rfl | inRest
        · exact .inl ⟨by simp, noTypedef⟩
        · exact later inRest

/-- Lines that define no arrays stay as they are when no array is known. -/
theorem inlineArrays_of_noTypedef {lines : List Text}
    (all : ∀ line ∈ lines, ArrayAlias.ofTypedef? line = none) : inlineArrays [] lines = lines := by
  induction lines with
  | nil => rfl
  | cons line rest ih =>
    -- No array becomes known, so a member's array is looked up in vain.
    have later := ih fun other member => all other (by simp [member])
    rw [inlineArrays, all line (by simp)]
    cases ArrayMember.ofLine? line <;> simp [later]

/-- Arrays are nothing to the guards. -/
theorem inlineArrays_signs {known : List ArrayAlias} {lines : List Text}
    (all : ∀ line ∈ lines, IsLine line) :
    (inlineArrays known lines).filterMap ofLine? = lines.filterMap ofLine? := by
  induction lines generalizing known with
  | nil => rfl
  | cons line rest ih =>
    have isLine := all line (by simp)
    have later : ∀ known, (inlineArrays known rest).filterMap ofLine? =
        rest.filterMap ofLine? := fun _ =>
      ih fun other member => all other (by simp [member])
    rw [inlineArrays]
    split
    · -- A definition starts with a letter, so that its loss is no loss to the guards.
      rename_i array found
      have head := (of_ofTypedef? found).1
      rw [isLine.skipSpaces_eq] at head
      have sign : ofLine? line = none := ofLine?_of_head (by simp [head])
      rw [later, List.filterMap_cons_none sign]
    · split
      · -- So does a member, and what is written for it.
        rename_i member found
        obtain ⟨-, ⟨c, -, head, lower⟩, -⟩ := of_ofLine? found
        rw [isLine.skipSpaces_eq] at head
        have sign : ofLine? line = none := ofLine?_of_head fun start => by
          obtain rfl : c = '#' := Option.some.inj (head.symm.trans start)
          simp [isLower] at lower
        rw [List.filterMap_cons_none sign]
        split
        · rw [List.filterMap_cons_none (isLine.inlined found).2.2, later]
        · rw [List.filterMap_cons_none sign, later]
      · rw [List.filterMap_cons, List.filterMap_cons, later]

/-- A line is in no comment if it starts with neither an at sign nor a quote. -/
theorem isComment_of_head {line : Text} (isLine : IsLine line)
    (head : ∀ c ∈ line.head?, c ≠ '@' ∧ c ≠ '"') : isComment line = false := by
  -- The first character decides all three ways in which a comment goes on.
  obtain ⟨c, rest, rfl⟩ := List.exists_cons_of_ne_nil isLine.nonempty
  obtain ⟨noSign, noQuote⟩ := head c rfl
  have starts : startsComment (c :: rest) = false := by
    have other : ('@' == c) = false := by simpa using Ne.symm noSign
    simp [startsComment, isLine.skipSpaces_eq, Text.stripPrefix?, List.isPrefixOf?, other]
  have quoted (mark : Text) : quotedUpTo mark (c :: rest) = false := by
    rw [quotedUpTo, isLine.skipSpaces_eq]
    split
    · rename_i same
      exact absurd (List.cons.inj same).1 noQuote
    · rfl
  simp [isComment, starts, quoted]

/-- A line of a verbatim comment is nothing to the guards. -/
theorem ofLine?_of_isComment {line : Text} (isLine : IsLine line)
    (comment : isComment line = true) : ofLine? line = none := by
  refine ofLine?_of_head fun sign => ?_
  rw [isComment_of_head isLine (by simp [sign])] at comment
  cases comment

/-- Comments are nothing to the guards. -/
theorem filter_signs {lines : List Text} (all : ∀ line ∈ lines, IsLine line) :
    (lines.filter fun line => !isComment line).filterMap ofLine? =
      lines.filterMap ofLine? := by
  induction lines with
  | nil => rfl
  | cons line rest ih =>
    have later := ih fun other member => all other (by simp [member])
    cases comment : isComment line with
    | true =>
      -- A line that is filtered out was no sign, so that its loss is none either.
      have sign := ofLine?_of_isComment (all line (by simp)) comment
      rw [List.filter_cons_of_neg (by simp [comment]), later, List.filterMap_cons_none sign]
    | false =>
      rw [List.filter_cons_of_pos (by simp [comment]), List.filterMap_cons, List.filterMap_cons,
        later]

/-- A line is renamed to its first word and its reserved name with an underscore, or stays. -/
theorem renameReserved_cases (line : Text) :
    renameReserved line = line ∨ ∃ type name rest, ' ' ∉ type ∧ name ∈ Member.reservedNames ∧
      line = type ++ ' ' :: (name ++ ';' :: rest) ∧
      renameReserved line = type ++ ' ' :: (name ++ ['_', ';']) := by
  unfold renameReserved
  split
  · rename_i type name found
    split
    · rename_i reserved
      -- The two cuts that find the name also say that no space stands before it.
      simp only [memberParts?, Option.bind_eq_bind, Option.bind_eq_some_iff, Option.pure_def,
        Option.some.injEq, Prod.mk.injEq, Prod.exists] at found
      obtain ⟨_, _, first, _, rest, second, rfl, rfl⟩ := found
      obtain ⟨absent, whole⟩ := Text.of_breakAt? first
      obtain ⟨-, rfl⟩ := Text.of_breakAt? second
      have ending : "_;".toList = ['_', ';'] := rfl
      exact .inr ⟨_, _, rest, absent, by simpa using reserved, whole, by simp [ending]⟩
    · exact .inl rfl
  · exact .inl rfl

/-- A reserved name with an underscore starts with one letter, whichever it is. -/
theorem head_ending {name : Text} (reserved : name ∈ Member.reservedNames) :
    (name ++ ['_', ';']).head? = some 's' := by
  have checked : ∀ name ∈ Member.reservedNames, (name ++ ['_', ';']).head? = some 's' := by decide
  exact checked name reserved

/-- A reserved name with an underscore holds no space, no quote, and no end of a line. -/
theorem lacks_ending {name : Text} (reserved : name ∈ Member.reservedNames) :
    Text.Lacks (name ++ ['_', ';']) [' ', '\n', '"'] := by
  have checked : ∀ name ∈ Member.reservedNames,
      Text.Lacks (name ++ ['_', ';']) [' ', '\n', '"'] := by decide
  exact checked name reserved

/-- A name with an underscore is not reserved. -/
theorem renameReserved_idempotent (line : Text) :
    renameReserved (renameReserved line) = renameReserved line := by
  rcases renameReserved_cases line with same | ⟨type, name, rest, absent, reserved, -, renamed⟩
  · rw [same, same]
  · -- The renamed line has the same first word, and behind it a name that is not reserved.
    have checked : ∀ name ∈ Member.reservedNames,
        ';' ∉ name ++ ['_'] ∧ name ++ ['_'] ∉ Member.reservedNames := by decide
    obtain ⟨single, free⟩ := checked name reserved
    have parts : memberParts? (type ++ ' ' :: (name ++ ['_', ';'])) =
        some (type, name ++ ['_']) := by
      have second : Text.breakAt? ';' (name ++ ['_', ';']) = some (name ++ ['_'], []) := by
        simpa using Text.breakAt?_append single []
      rw [memberParts?, Text.breakAt?_append absent]
      simp [second]
    rw [renamed, renameReserved, parts]
    simp [free]

/-- A line stays a line when it is renamed. -/
theorem IsLine.renameReserved {line : Text} (isLine : IsLine line) :
    IsLine (renameReserved line) := by
  rcases renameReserved_cases line with same | ⟨type, name, rest, -, reserved, rfl, renamed⟩
  · rwa [same]
  -- The first word begins the line, or the line would begin with a space.
  have started : type ≠ [] := fun empty => isLine.head_ne_space (by simp [empty])
  rw [renamed]
  refine ⟨by simp, ⟨fun c head => isLine.trimmed.1 c ?_, fun c last => ?_⟩, ?_⟩
  · -- Both lines begin with the first word, and so with the same character.
    rw [List.head?_append_of_ne_nil _ started] at head ⊢
    exact head
  · have shape : type ++ ' ' :: (name ++ ['_', ';']) = type ++ ' ' :: (name ++ ['_']) ++ [';'] := by
      simp
    rw [shape, List.getLast?_concat] at last
    obtain rfl : ';' = c := Option.some.inj last
    decide
  · -- A line ending could only be in the first word, which is from the line, or in the reserved
    -- name.
    have inType : '\n' ∉ type := fun inside => isLine.single (by simp [inside])
    have inName : '\n' ∉ name ++ ['_', ';'] := fun inside =>
      lacks_ending reserved _ inside (by simp)
    simp only [List.mem_append, List.mem_cons, not_or]
    exact ⟨inType, by decide, by simpa using inName⟩

/-- A renamed line defines no array if the line defines none. -/
theorem ofTypedef?_renameReserved {line : Text} (none : ArrayAlias.ofTypedef? line = none) :
    ArrayAlias.ofTypedef? (renameReserved line) = .none := by
  rcases renameReserved_cases line with same | ⟨type, name, rest, absent, reserved, -, renamed⟩
  · rwa [same]
  · rw [renamed]
    -- The first space is the only one, and a definition has two.
    exact ofTypedef?_of_one_space absent fun inside =>
      lacks_ending reserved _ inside (by simp)

/-- A line of a verbatim comment has a space before a letter or a quote that starts no reserved
name, or a closing quote with its bracket. -/
theorem of_isComment {line : Text} (isLine : IsLine line) (comment : isComment line = true) :
    (∃ before c after, line = before ++ ' ' :: c :: after ∧ c ≠ 's') ∨
      ∃ rest, line = '"' :: rest ∧ "\")".toList <:+: rest := by
  -- Both kinds of quoted lines open with a quote and have their mark somewhere behind it.
  have quoted : ∀ mark, quotedUpTo mark line = true → ∃ rest, line = '"' :: rest ∧ mark <:+: rest :=
    fun mark found => by
      rw [quotedUpTo, isLine.skipSpaces_eq] at found
      split at found
      · exact ⟨_, rfl, Text.infix_of_occursIn found⟩
      · cases found
  simp only [isComment, Bool.or_eq_true] at comment
  rcases comment with (starts | further) | last
  · -- The three kinds in order: the opening line, one that goes on, and the closing one.
    rw [startsComment] at starts
    split at starts
    · rename_i rest found
      obtain ⟨text, behind⟩ := List.isPrefixOf_iff_prefix.mp starts
      obtain ⟨gap, tail⟩ := List.dropWhile_suffix (l := rest) (· == ' ')
      have whole := List.isPrefixOf?_eq_some_iff_append_eq.mp found
      rw [isLine.skipSpaces_eq] at whole
      have split : "(language=\"comment\", text=".toList =
          "(language=\"comment\",".toList ++ ' ' :: 't' :: "ext=".toList := rfl
      refine .inl ⟨"@verbatim".toList ++ gap ++ "(language=\"comment\",".toList, 't',
        "ext=".toList ++ text, ?_, by decide⟩
      rw [← whole, ← tail, show rest.dropWhile (· == ' ') = _ from behind.symm, split]
      simp only [List.append_assoc, List.cons_append]
    · cases starts
  · -- A line that goes on has a space between two quotes inside its mark.
    obtain ⟨rest, rfl, before, after, rfl⟩ := quoted _ further
    have split : "\" \"\\n\"".toList = '"' :: ' ' :: '"' :: ['\\', 'n', '"'] := rfl
    exact .inl ⟨'"' :: (before ++ ['"']), '"', ['\\', 'n', '"'] ++ after, by simp [split],
      by decide⟩
  · exact .inr (quoted _ last)

/-- A renamed line is in no comment if the line is in none. -/
theorem isComment_renameReserved {line : Text} (isLine : IsLine line)
    (none : isComment line = false) : isComment (renameReserved line) = false := by
  rcases renameReserved_cases line with same | ⟨type, name, rest, absent, reserved, rfl, renamed⟩
  · rwa [same]
  rw [Bool.eq_false_iff]
  intro comment
  rcases of_isComment isLine.renameReserved comment with
    ⟨before, c, after, whole, other⟩ | ⟨tail, whole, inside⟩
  · -- The only space stands before the reserved name.
    rw [renamed] at whole
    have behind := ((List.append_cons_inj_of_notMem absent fun inside =>
      lacks_ending reserved _ inside (by simp)).mp whole).2.2
    have head := head_ending reserved
    rw [behind, List.head?_cons, Option.some.injEq] at head
    exact other head
  · -- The bracket that closes the comment is in the first word, and so in the line before.
    rw [renamed] at whole
    cases type with
    | nil => exact isLine.head_ne_space rfl
    | cons d more =>
      obtain ⟨rfl, rfl⟩ := List.cons.inj whole
      have inType : "\")".toList <:+: more :=
        (Text.infix_of_infix_append_cons (by decide) inside).resolve_right fun inName =>
          lacks_ending reserved '"' (inName.subset (by decide)) (by simp)
      have inLine : "\")".toList <:+: more ++ ' ' :: (name ++ ';' :: rest) :=
        inType.trans (List.prefix_append _ _).isInfix
      have closes :
          quotedUpTo "\")".toList ('"' :: more ++ ' ' :: (name ++ ';' :: rest)) = true := by
        rw [quotedUpTo, isLine.skipSpaces_eq]
        exact Text.occursIn_of_infix inLine
      rw [isComment, closes, Bool.or_true] at none
      cases none

/-- A line that includes a path has two quotes. -/
theorem isSome_includedPath?_iff {line : Text} :
    (includedPath? line).isSome = true ↔ 2 ≤ line.count '"' := by
  -- Each cut at a quote takes one quote away.
  have quotes : ∀ {text before after : Text}, Text.breakAt? '"' text = some (before, after) →
      text.count '"' = after.count '"' + 1 := fun found => by
    obtain ⟨absent, rfl⟩ := Text.of_breakAt? found
    rw [List.count_append, List.count_cons_self, List.count_eq_zero.mpr absent, Nat.zero_add]
  have noQuotes : ∀ {text : Text}, Text.breakAt? '"' text = none → text.count '"' = 0 :=
    fun missing => List.count_eq_zero.mpr (Text.breakAt?_eq_none_iff.mp missing)
  -- A path is what is between the first two quotes, so there is one just when both cuts succeed.
  cases first : Text.breakAt? '"' line with
  | none => simp [includedPath?, first, noQuotes first]
  | some parts =>
    cases second : Text.breakAt? '"' parts.2 with
    | none =>
      have one := quotes first
      rw [noQuotes second] at one
      simp [includedPath?, first, second, one]
    | some more =>
      have one := quotes first
      have two := quotes second
      have several : 2 ≤ line.count '"' := by omega
      simp [includedPath?, first, second, several]

/-- A renamed line is to the guards what the line is, or no inclusion any more. -/
theorem renameReserved_sign (line : Text) :
    ofLine? (renameReserved line) = ofLine? line ∨
      (ofLine? line = some .includes ∧
        ofLine? (renameReserved line) = none) := by
  rcases renameReserved_cases line with same | ⟨type, name, rest, absent, reserved, rfl, renamed⟩
  · exact .inl (by rw [same])
  -- A mark that ends in a space is the first word with it; other marks begin the first word.
  have opens : ∀ after, "#ifndef ".toList.isPrefixOf (type ++ ' ' :: after) =
      decide ("#ifndef".toList = type) := fun after => by
    rw [Bool.eq_iff_iff, List.isPrefixOf_iff_prefix, decide_eq_true_eq]
    have outside : ' ' ∉ "#ifndef".toList := by decide
    exact Text.concat_prefix_iff outside absent
  have others : ∀ mark after : Text, ' ' ∉ mark →
      mark.isPrefixOf (type ++ ' ' :: after) = mark.isPrefixOf type := fun mark after outside => by
    rw [Bool.eq_iff_iff, List.isPrefixOf_iff_prefix, List.isPrefixOf_iff_prefix]
    exact ⟨Text.prefix_of_prefix_append_cons outside type,
      fun starts => starts.trans (List.prefix_append _ _)⟩
  -- Renaming drops what is behind the semicolon, so it may lose quotes but adds none.
  have fewer : (includedPath? (type ++ ' ' :: (name ++ ['_', ';']))).isSome = true →
      (includedPath? (type ++ ' ' :: (name ++ ';' :: rest))).isSome = true := by
    have noQuote : '"' ∉ name ++ ['_', ';'] := fun inside =>
      lacks_ending reserved _ inside (by simp)
    rw [isSome_includedPath?_iff, isSome_includedPath?_iff]
    simp only [List.count_append, List.count_cons, List.count_eq_zero.mpr noQuote]
    omega
  rw [renamed, ofLine?, ofLine?, opens, opens, others _ _ (by decide),
    others _ _ (by decide), others _ _ (by decide), others _ _ (by decide)]
  -- Only the path of an inclusion can be lost.
  split
  · exact .inl rfl
  · split
    · exact .inl rfl
    · -- Both lines start as inclusions do, or neither does.
      cases "#include".toList.isPrefixOf type with
      | false => exact .inl rfl
      | true =>
        cases kept : (includedPath? (type ++ ' ' :: (name ++ ['_', ';']))).isSome with
        | true => exact .inl (by rw [fewer kept])
        | false =>
          cases (includedPath? (type ++ ' ' :: (name ++ ';' :: rest))).isSome with
          | true => exact .inr ⟨rfl, rfl⟩
          | false => exact .inl rfl

/-- Guarded lines stay guarded when reserved names are renamed. -/
theorem Guarded.renameReserved {inGuard : Bool} {lines : List Text}
    (all : Guarded inGuard (lines.filterMap ofLine?)) :
    Guarded inGuard ((lines.map renameReserved).filterMap ofLine?) := by
  induction lines generalizing inGuard with
  | nil => trivial
  | cons line rest ih =>
    rw [List.map_cons]
    -- The signs of the other lines are untouched; one inclusion less leaves the rest guarded.
    rcases renameReserved_sign line with same | ⟨includes, gone⟩
    · cases sign : ofLine? line with
      | none =>
        rw [List.filterMap_cons_none sign] at all
        rw [List.filterMap_cons_none (same.trans sign)]
        exact ih all
      | some found =>
        rw [List.filterMap_cons_some sign] at all
        rw [List.filterMap_cons_some (same.trans sign)]
        cases found with
        | opens | closes => exact ih all
        | includes => exact ⟨all.1, ih all.2⟩
    · rw [List.filterMap_cons_some includes] at all
      rw [List.filterMap_cons_none gone]
      exact ih all.2

/-- A line that no step of the clean-up changes or drops by itself. -/
structure IsSettled (line : Text) : Prop where
  isLine : IsLine line
  noTypedef : ArrayAlias.ofTypedef? line = none
  noComment : isComment line = false
  unreserved : renameReserved line = line

/-- The lines of a text after its arrays were written out define none. -/
theorem isLine_of_mem_inlined {text line : Text}
    (member : line ∈ inlineArrays [] (guardIncludes false (dropEmpty text))) :
    IsLine line ∧ ArrayAlias.ofTypedef? line = none := by
  -- A line that was written out is spelled anew, so that it is a line by its own words.
  rcases of_mem_inlineArrays member with ⟨listed, noTypedef⟩ | ⟨other, listed, array, found, rfl⟩
  · exact ⟨isLine_of_mem_guarded listed, noTypedef⟩
  · obtain ⟨isLine, noTypedef, -⟩ := (isLine_of_mem_guarded listed).inlined found
    exact ⟨isLine, noTypedef⟩

/-- The lines of a text that was cleaned up are settled. -/
theorem isSettled_of_mem_cleanLines {text line : Text} (member : line ∈ cleanLines text) :
    IsSettled line := by
  -- The last two passes map and filter, so that they are undone here one at a time.
  obtain ⟨before, listed, rfl⟩ := List.mem_map.mp member
  obtain ⟨inlined, noComment⟩ := List.mem_filter.mp listed
  obtain ⟨isLine, noTypedef⟩ := isLine_of_mem_inlined inlined
  exact ⟨isLine.renameReserved, ofTypedef?_renameReserved noTypedef,
    isComment_renameReserved isLine (by simpa using noComment), renameReserved_idempotent before⟩

/-- The inclusions of a text that was cleaned up are guarded. -/
theorem guarded_cleanLines (text : Text) :
    Guarded false ((cleanLines text).filterMap ofLine?) := by
  -- Of the steps after the guards only the last one touches lines that are something to them.
  apply Guarded.renameReserved
  rw [filter_signs fun line member => (isLine_of_mem_inlined member).1,
    inlineArrays_signs fun line member => isLine_of_mem_guarded member]
  exact guarded_guardIncludes false _

/-- Settled lines with guarded inclusions are what a text of them is cleaned up to. -/
theorem cleanLines_print {lines : List Text} (settled : ∀ line ∈ lines, IsSettled line)
    (guarded : Guarded false (lines.filterMap ofLine?)) :
    cleanLines (lines.flatMap fun line => line ++ ['\n']) = lines := by
  -- Each pass is the identity on lines that it has nothing to do for.
  have isLine := fun line member => (settled line member).isLine
  have noTypedef := fun line member => (settled line member).noTypedef
  have noComment : ∀ line ∈ lines, (!isComment line) = true := fun line member => by
    rw [(settled line member).noComment]
    rfl
  have unreserved : lines.map renameReserved = lines := by
    rw [List.map_congr_left (g := id) fun line member => (settled line member).unreserved,
      List.map_id]
  simp only [cleanLines, dropEmpty_print isLine, guardIncludes_of_guarded guarded,
    inlineArrays_of_noTypedef noTypedef, List.filter_eq_self.mpr noComment, unreserved]

end Cleanup

/-- Cleaning up a text that was cleaned up changes nothing. -/
theorem cleanUp_idempotent (text : Text) : cleanUp (cleanUp text) = cleanUp text := by
  -- The lines of the result are settled and guarded, and every step leaves such lines alone.
  have again : Cleanup.cleanLines (cleanUp text) = Cleanup.cleanLines text :=
    Cleanup.cleanLines_print (fun _ => Cleanup.isSettled_of_mem_cleanLines)
      (Cleanup.guarded_cleanLines text)
  rw [cleanUp, again, cleanUp]

end IdlScout
