import IdlScout.Proofs.Idl.Reprint

/-! The names that members declare: the printer renames a reserved one where nothing but a blank is
before it and nothing is behind it, and no other. -/

namespace IdlScout

/-- A text ends in one word, wherever it is cut into a word and what stands before it. -/
theorem Text.word_at_end {front name before last : Text} {c : Char} (nameWord : IsWordText name)
    (lastWord : IsWordText last) (stop : isWord c = false)
    (apart : ∀ d ∈ front.getLast?, isWord d = false)
    (whole : front ++ name = before ++ c :: last) : front = before ++ [c] ∧ name = last := by
  have split : front ++ name = (before ++ [c]) ++ last := by simpa using whole
  rcases List.append_eq_append_iff.mp split with ⟨more, longer, inName⟩ | ⟨more, shorter, inLast⟩
  · -- The character before the last word would be in the name.
    cases ends : more.getLast? with
    | none =>
      obtain rfl : more = [] := List.getLast?_eq_none_iff.mp ends
      exact ⟨by simpa using longer.symm, by simpa using inName⟩
    | some d =>
      have same : d = c := by
        have both := congrArg List.getLast? longer
        simpa [ends, eq_comm] using both
      have word := nameWord d (by simp [inName, List.mem_of_getLast? ends])
      simp [same, stop] at word
  · -- The last character before the name would be in the last word.
    cases ends : more.getLast? with
    | none =>
      obtain rfl : more = [] := List.getLast?_eq_none_iff.mp ends
      exact ⟨by simpa using shorter, by simpa using inLast.symm⟩
    | some d =>
      have word := lastWord d (by simp [inLast, List.mem_of_getLast? ends])
      have none := apart d (by simp [shorter, List.getLast?_cons, ends])
      simp [word] at none

namespace Member

/-- What a name can stand behind: a blank, the bracket of a template type, or the comma behind
another declarator. -/
def Introduces (front : Text) : Prop :=
  ∃ c, front.getLast? = some c ∧ (isBlank c = true ∨ c = '>' ∨ c = ',')

/-- What can stand behind a declared name: bounds of an array, and further declarators. -/
inductive IsTail : Text → Prop
  | nil : IsTail []
  | blank {tail : Text} {c : Char} : IsTail tail → isBlank c = true → IsTail (tail ++ [c])
  | bound {tail inner : Text} : IsTail tail → Text.Lacks inner ['[', ']'] →
      IsTail (tail ++ '[' :: (inner ++ [']']))
  | next {tail lead name : Text} : IsTail tail → IsBlankText lead → IsIdentifier name →
      IsTail (tail ++ ',' :: (lead ++ name))

/-- A name that a member declares, with what stands before it and behind it. -/
structure Declares (member front name tail : Text) : Prop where
  whole : member = front ++ (name ++ tail)
  introduced : Introduces front
  named : IsIdentifier name
  follows : IsTail tail

/-- A name that is the last word of its member, with a blank before it. -/
def StandsLast (front tail : Text) : Prop :=
  tail = [] ∧ ∃ c, front.getLast? = some c ∧ isBlank c = true

variable {member front name tail : Text}

/-- No word goes on where a name is introduced. -/
theorem Introduces.apart (introduced : Introduces front) :
    ∀ c ∈ front.getLast?, isWord c = false := by
  obtain ⟨c, last, sign⟩ := introduced
  intro d found
  obtain rfl : c = d := Option.some.inj (last.symm.trans found)
  -- A blank, a bracket and a comma are in no word.
  rcases sign with blank | rfl | rfl
  · exact isWord_of_isBlank blank
  · decide
  · decide

/-- A comma and blanks introduce a name. -/
theorem introduces_comma (front : Text) {lead : Text} (blank : IsBlankText lead) :
    Introduces (front ++ ',' :: lead) := by
  -- The comma stands last if no blanks follow it.
  cases ends : lead.getLast? with
  | none =>
    obtain rfl : lead = [] := List.getLast?_eq_none_iff.mp ends
    exact ⟨',', by simp, .inr (.inr rfl)⟩
  | some c =>
    exact ⟨c, by simp [ends, List.getLast?_cons], .inl (blank c (List.mem_of_getLast? ends))⟩

/-- A tail that ends in a word ends in a declarator. -/
theorem IsTail.exists_next (follows : IsTail tail) (nonempty : tail ≠ [])
    (word : ∀ c ∈ tail.getLast?, isWord c = true) : ∃ init lead other,
      IsTail init ∧ IsBlankText lead ∧ IsIdentifier other ∧
        tail = init ++ ',' :: (lead ++ other) := by
  -- Neither a blank nor a bracket is part of a word, so what comes last is a declarator.
  cases follows with
  | nil => exact absurd rfl nonempty
  | blank _ blank =>
    have inWord := word _ List.getLast?_concat
    simp [isWord_of_isBlank blank] at inWord
  | @bound init inner _ _ =>
    have ends : (init ++ '[' :: (inner ++ [']'])).getLast? = some ']' := by
      rw [← List.cons_append, ← List.append_assoc, List.getLast?_concat]
    exact absurd (word _ ends) (by decide)
  | next init blank identifier => exact ⟨_, _, _, init, blank, identifier, rfl⟩

/-- Where the last word of a text is a name behind a comma, blanks are all that is between them. -/
theorem gap_behind_comma {lead other before last : Text} {c : Char} (leadBlank : IsBlankText lead)
    (otherIdentifier : IsIdentifier other) (lastIdentifier : IsIdentifier last)
    (stop : isBlank c = true) (whole : front ++ ',' :: (lead ++ other) = before ++ c :: last) :
    ∃ gap, IsBlankText gap ∧ before = front ++ ',' :: gap := by
  have split : (front ++ ',' :: lead) ++ other = before ++ c :: last := by simpa using whole
  obtain ⟨head, -⟩ := Text.word_at_end otherIdentifier.word lastIdentifier.word
    (isWord_of_isBlank stop) (introduces_comma front leadBlank).apart split
  rcases List.eq_nil_or_concat lead with rfl | ⟨gap, d, rfl⟩
  · -- The comma itself is no blank.
    have same := congrArg List.getLast? head
    obtain rfl : ',' = c := by simpa using same
    exact absurd stop (by decide)
  · rw [List.concat_eq_append] at head leadBlank
    have cut : (front ++ ',' :: gap) ++ [d] = before ++ [c] := by simpa using head
    exact ⟨gap, fun e inGap => leadBlank e (List.mem_append_left _ inGap),
      (List.append_inj' cut rfl).1.symm⟩

/-- A name declared in a text that ends in a word is that word, or one before it with that word
declared behind the last comma. -/
theorem Declares.of_last {before last : Text} {c : Char} (lastIdentifier : IsIdentifier last)
    (stop : isBlank c = true) (declares : Declares (before ++ c :: last) front name tail) :
    (tail = [] ∧ front = before ++ [c] ∧ name = last) ∨
      ∃ init gap, IsTail init ∧ IsBlankText gap ∧
        before = front ++ (name ++ (init ++ ',' :: gap)) := by
  obtain ⟨whole, introduced, named, follows⟩ := declares
  by_cases nothing : tail = []
  · subst nothing
    rw [List.append_nil] at whole
    obtain ⟨head, same⟩ := Text.word_at_end named.word lastIdentifier.word (isWord_of_isBlank stop)
      introduced.apart whole.symm
    exact .inl ⟨rfl, head, same⟩
  · -- The text ends in a word, so its tail does.
    have ends : tail.getLast? = last.getLast? := by
      -- With no bounds and no comma behind it the name is the last word itself.
      have both := congrArg List.getLast? whole
      rw [List.getLast?_append_of_ne_nil _ (by simp),
        List.getLast?_cons_of_ne_nil lastIdentifier.nonempty, ← List.append_assoc,
        List.getLast?_append_of_ne_nil _ nothing] at both
      exact both.symm
    obtain ⟨init, lead, other, inner, blank, identifier, rfl⟩ := follows.exists_next nothing
      fun d found => lastIdentifier.word d (List.mem_of_getLast? (ends ▸ found))
    have split : (front ++ (name ++ init)) ++ ',' :: (lead ++ other) = before ++ c :: last := by
      simpa using whole.symm
    obtain ⟨gap, isGap, rfl⟩ := gap_behind_comma blank identifier lastIdentifier stop split
    exact .inr ⟨init, gap, inner, isGap, by simp⟩

/-- A name is declared with another one behind a comma and blanks. -/
theorem declares_of_next {init lead other : Text} (introduced : Introduces front)
    (named : IsIdentifier name) (inner : IsTail init) (blank : IsBlankText lead)
    (identifier : IsIdentifier other) :
    Declares (front ++ (name ++ (init ++ ',' :: (lead ++ other)))) front name
      (init ++ ',' :: (lead ++ other)) :=
  ⟨rfl, introduced, named, inner.next blank identifier⟩

/-- What is left of reserved names when one of them is renamed. -/
theorem of_mem_reservedNames {name : Text} (reserved : name ∈ reservedNames) :
    IsIdentifier name ∧ IsIdentifier (name ++ ['_']) ∧ name ++ ['_'] ∉ reservedNames ∧
      name.getLast? ≠ some '_' := by
  have all : ∀ name ∈ reservedNames, IsIdentifier name ∧ IsIdentifier (name ++ ['_']) ∧
      name ++ ['_'] ∉ reservedNames ∧ name.getLast? ≠ some '_' := by decide +kernel
  exact all name reserved

/-- A member is not left as it is if its last word is a reserved name with a blank before it. -/
theorem Declares.renameReserved_ne (declares : Declares member front name tail)
    (reserved : name ∈ reservedNames) (last : StandsLast front tail) :
    renameReserved member ≠ member := by
  obtain ⟨rfl, c, ends, blank⟩ := last
  obtain ⟨type, rfl⟩ := List.getLast?_eq_some_iff.mp ends
  obtain ⟨identifier, -, -, other⟩ := of_mem_reservedNames reserved
  -- The blank before the name is the last one, since the name has none.
  have parts : Text.breakLastBlank? member = some (type, name) := by
    rw [declares.whole, List.append_nil, List.append_assoc, List.singleton_append]
    exact Text.breakLast?_append blank type identifier.visible
  intro same
  have written : (Text.trimEnd type ++ ' ' :: name) ++ ['_'] = member := by
    simpa [renameReserved, parts, reserved] using same
  -- A renamed member ends in an underscore, and no reserved name does.
  have both := congrArg List.getLast? written
  rw [List.getLast?_concat, declares.whole, List.append_nil,
    List.getLast?_append_of_ne_nil _ identifier.nonempty] at both
  exact other both.symm

section Renamed

variable {type last : Text} {c : Char}

/-- A reserved name that is declared with the last word renamed was declared before that word. -/
theorem Declares.of_renamed (blank : isBlank c = true) (isReserved : last ∈ reservedNames)
    (reserved : name ∈ reservedNames)
    (declares : Declares (Text.trimEnd type ++ ' ' :: (last ++ ['_'])) front name tail) :
    ∃ more, Declares (type ++ c :: last) front name more ∧ ¬ StandsLast front more := by
  -- The last word is no reserved name any more, so the one declared is before a comma.
  obtain ⟨identifier, longer, unlisted, -⟩ := of_mem_reservedNames isReserved
  rcases declares.of_last longer (by decide) with ⟨-, -, rfl⟩ | ⟨init, gap, inner, isGap, cut⟩
  · exact absurd reserved unlisted
  -- The blanks that were trimmed are between the comma and the last word.
  obtain ⟨trimmed, isTrimmed, whole⟩ := Text.exists_trimEnd_append type
  have shape : type ++ c :: last =
      front ++ (name ++ (init ++ ',' :: ((gap ++ trimmed ++ [c]) ++ last))) := by
    rw [whole, cut]
    simp
  have lead : IsBlankText (gap ++ trimmed ++ [c]) := by
    intro d inside
    simp only [List.mem_append, List.mem_singleton] at inside
    rcases inside with (inGap | inTrimmed) | rfl
    · exact isGap d inGap
    · exact isTrimmed d inTrimmed
    · exact blank
  refine ⟨_, shape ▸
    declares_of_next declares.introduced declares.named inner lead identifier, ?_⟩
  rintro ⟨nothing, -⟩
  simp at nothing

/-- A name declared before the last word is still declared with that word renamed. -/
theorem Declares.renamed (blank : isBlank c = true) (isReserved : last ∈ reservedNames)
    (declares : Declares (type ++ c :: last) front name tail) (before : ¬ StandsLast front tail) :
    ∃ more, Declares (Text.trimEnd type ++ ' ' :: (last ++ ['_'])) front name more := by
  obtain ⟨identifier, longer, -⟩ := of_mem_reservedNames isReserved
  -- The case of the last word is the one that is excluded.
  rcases declares.of_last identifier blank with ⟨rfl, rfl, -⟩ | ⟨init, gap, inner, isGap, rfl⟩
  · exact absurd ⟨rfl, c, by simp, blank⟩ before
  -- Trimming stops at the comma.
  have kept : Text.trimEnd (front ++ (name ++ (init ++ ',' :: gap))) =
      front ++ (name ++ (init ++ [','])) := by
    have comma := Text.trimEnd_append_cons (by decide : isBlank ',' = false)
      (front ++ (name ++ init)) gap
    have nothing : Text.trimEnd gap = [] := by
      simpa [Text.trimEnd, IsBlankText] using isGap
    simpa [nothing] using comma
  have shape : Text.trimEnd (front ++ (name ++ (init ++ ',' :: gap))) ++ ' ' :: (last ++ ['_']) =
      front ++ (name ++ (init ++ ',' :: ([' '] ++ (last ++ ['_'])))) := by
    rw [kept]
    simp
  exact ⟨_, shape ▸
    declares_of_next declares.introduced declares.named inner (by decide) longer⟩

end Renamed

/-- A reserved name is renamed exactly where it is the last word of its member, with a blank before
it: all others that a member declares are still declared when it is printed. -/
theorem declares_renamed_iff (member : Text) :
    (∃ name ∈ reservedNames, ∃ front tail, Declares (renameReserved member) front name tail) ↔
      ∃ name ∈ reservedNames, ∃ front tail,
        Declares member front name tail ∧ ¬ StandsLast front tail := by
  rcases renameReserved_cases member with same | ⟨type, c, last, blank, rfl, isReserved, renamed⟩
  · -- A member that stays as it is declares no reserved name as its last word.
    rw [same]
    refine ⟨fun ⟨name, reserved, front, tail, declares⟩ => ?_,
      fun ⟨name, reserved, front, tail, declares, _⟩ => ⟨name, reserved, front, tail, declares⟩⟩
    exact ⟨name, reserved, front, tail, declares,
      fun stands => declares.renameReserved_ne reserved stands same⟩
  · rw [renamed]
    constructor
    · rintro ⟨name, reserved, front, tail, declares⟩
      exact ⟨name, reserved, front, declares.of_renamed blank isReserved reserved⟩
    · -- The front of the name is kept, with all that stands before the comma.
      rintro ⟨name, reserved, front, tail, declares, before⟩
      exact ⟨name, reserved, front, declares.renamed blank isReserved before⟩

end Member

/-- The members of a type are printed line by line, each as it is renamed. A line declares a
reserved name if and only if a member declares one that is not its last word behind a blank: one
with bounds or other declarators behind it, or one with no blank before it. -/
theorem DetectedType.print_declares_reserved_iff {type : DetectedType} (layout : Layout)
    (parsed : type.isParsed = true) :
    let level := type.modules.length
    let lines := type.members.map Member.renameReserved
    (∃ before after, type.print layout =
      before ++ (layout.margin level ++ "struct ".toList ++ type.name ++ " \x7b\n".toList) ++
        (lines.flatMap fun text => layout.margin (level + 1) ++ text ++ ";\n".toList) ++
        (layout.margin level ++ "\x7d;\n".toList) ++ after) ∧
    ((∃ text ∈ lines, ∃ name ∈ Member.reservedNames, ∃ front tail,
        Member.Declares text front name tail) ↔
      ∃ member ∈ type.members, ∃ name ∈ Member.reservedNames, ∃ front tail,
        Member.Declares member front name tail ∧ ¬ Member.StandsLast front tail) := by
  obtain ⟨declaration, present⟩ := Option.isSome_iff_exists.mp parsed
  simp only [print, modules, name, members, present]
  refine ⟨⟨_, _, declaration.print_eq_around_members layout⟩, ?_⟩
  simp only [List.mem_map, exists_exists_and_eq_and, Member.declares_renamed_iff]

/-- A name right behind the bracket of a template type is declared as it was. -/
theorem DetectedType.print_declares_name_behind_bracket :
    ∃ type, detect "S".toList "struct S \x7b sequence<long>struct; \x7d;".toList = .ok type ∧
      type.isParsed = true ∧ ∃ text ∈ type.members.map Member.renameReserved,
        ∃ name ∈ Member.reservedNames, ∃ front tail, Member.Declares text front name tail := by
  have found : detect "S".toList "struct S \x7b sequence<long>struct; \x7d;".toList =
      .ok ⟨"S".toList, "struct S \x7b sequence<long>struct; \x7d;".toList,
        some ⟨[], [], ['S'], ["sequence<long>struct".toList]⟩⟩ := by decide +kernel
  refine ⟨_, found, rfl, (print_declares_reserved_iff {} rfl).2.mpr ?_⟩
  refine ⟨"sequence<long>struct".toList, by simp [members], "struct".toList, by decide,
    "sequence<long>".toList, [], ⟨rfl, ⟨'>', rfl, by decide⟩, by decide, .nil⟩, ?_⟩
  rintro ⟨-, c, ends, blank⟩
  obtain rfl : '>' = c := Option.some.inj ends
  exact absurd blank (by decide)

/-- A reserved name with the bounds of an array behind it is printed as it is. -/
theorem DetectedType.print_keeps_reserved_name_of_array :
    ∃ type, detect "S".toList "struct S \x7b\n  long sequence[3];\n\x7d;".toList = .ok type ∧
      type.print {} = "struct S \x7b\n  long sequence[3];\n\x7d;\n".toList ∧
      "sequence".toList ∈ Member.reservedNames ∧
      Member.Declares "long sequence[3]".toList "long ".toList "sequence".toList "[3]".toList := by
  refine ⟨⟨"S".toList, "struct S \x7b\n  long sequence[3];\n\x7d;".toList,
    some ⟨[], [], ['S'], ["long sequence[3]".toList]⟩⟩, by decide +kernel, by decide +kernel,
    by decide, ⟨rfl, ⟨' ', rfl, by decide⟩, by decide, ?_⟩⟩
  exact Member.IsTail.nil.bound (by decide : Text.Lacks ['3'] ['[', ']'])

end IdlScout
