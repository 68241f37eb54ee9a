import IdlScout.Proofs.Idl.Cleanup

/-! How lines are spelled that define arrays of primitive values, and lines that use them. -/

namespace IdlScout
namespace Cleanup

/-- A word of a first character and any number of further ones. -/
def IsWordOf (isFirst isNext : Char → Bool) : Text → Prop
  | [] => False
  | c :: rest => isFirst c = true ∧ ∀ d ∈ rest, isNext d = true

-- The characters after the first are checked one by one.
instance (isFirst isNext : Char → Bool) : DecidablePred (IsWordOf isFirst isNext)
  | [] => .isFalse id
  | c :: rest =>
    decidable_of_iff (isFirst c = true ∧ rest.all isNext = true) (by simp [IsWordOf])

/-- A word has a first character. -/
theorem IsWordOf.exists_cons {isFirst isNext : Char → Bool} {word : Text}
    (isWord : IsWordOf isFirst isNext word) :
    ∃ c more, word = c :: more ∧ isFirst c = true ∧ ∀ d ∈ more, isNext d = true := by
  cases word with
  | nil => exact isWord.elim
  | cons c more => exact ⟨c, more, rfl, isWord.1, isWord.2⟩

/-- The name of a primitive type. -/
abbrev IsElement : Text → Prop :=
  IsWordOf isLower isLowerOrDigit

/-- A length other than zero. -/
abbrev IsLength : Text → Prop :=
  IsWordOf isPositiveDigit isAsciiDigit

/-- A member's name without capital letters. -/
abbrev IsMemberName : Text → Prop :=
  IsWordOf (fun c => isLower c || c == '_') fun c => isLowerOrDigit c || c == '_'

/-- A word is taken from a text that starts with it, if it does not go on. -/
theorem takeWord?_eq_some_iff {isFirst isNext : Char → Bool} {text word rest : Text} :
    takeWord? isFirst isNext text = some (word, rest) ↔
      text = word ++ rest ∧ IsWordOf isFirst isNext word ∧ ∀ c ∈ rest.head?, isNext c = false := by
  constructor
  · intro found
    -- One test of the first character and two scans of the others: each is undone here.
    cases text with
    | nil => cases found
    | cons c tail =>
      obtain ⟨first, rfl, rfl⟩ : isFirst c = true ∧ c :: tail.takeWhile isNext = word ∧
          tail.dropWhile isNext = rest := by
        simpa only [takeWord?, Option.ite_none_right_eq_some, Option.some.injEq, Prod.mk.injEq]
          using found
      refine ⟨by simp, ⟨first, fun d => List.mem_takeWhile_imp⟩, fun d head => ?_⟩
      -- What is left starts with the first character that is no part of the word.
      have stopped := List.head?_dropWhile_not isNext tail
      simpa [Option.mem_def.mp head] using stopped
  · rintro ⟨rfl, isWord, stop⟩
    -- The scans stop where the word does, since what follows does not go on with it.
    obtain ⟨c, more, rfl, first, others⟩ := isWord.exists_cons
    have whole : (more ++ rest).takeWhile isNext = more ∧
        (more ++ rest).dropWhile isNext = rest := by
      rw [List.takeWhile_append_of_pos others, List.dropWhile_append_of_pos others]
      cases rest with
      | nil => simp
      | cons d tail => simp [stop d rfl]
    simp [takeWord?, first, whole]

/-- A word is made of characters of its kinds. -/
theorem IsWordOf.of_mem {isFirst isNext : Char → Bool} {word : Text}
    (isWord : IsWordOf isFirst isNext word) {c : Char} (inside : c ∈ word) :
    isFirst c = true ∨ isNext c = true := by
  obtain ⟨d, more, rfl, first, others⟩ := isWord.exists_cons
  rcases List.mem_cons.mp inside with rfl | later
  · exact .inl first
  · exact .inr (others c later)

/-- A character of neither kind is in no word. -/
theorem IsWordOf.not_mem {isFirst isNext : Char → Bool} {word : Text}
    (isWord : IsWordOf isFirst isNext word) {c : Char} (first : isFirst c = false)
    (next : isNext c = false) : c ∉ word := fun inside => by
  rcases isWord.of_mem inside with found | found
  · simp [first] at found
  · simp [next] at found

/-- A text is taken from a text that starts with it. -/
theorem stripPrefix?_eq_some_iff {start text rest : Text} :
    Text.stripPrefix? start text = some rest ↔ start ++ rest = text :=
  List.isPrefixOf?_eq_some_iff_append_eq

namespace ArrayAlias

/-- The name as it is written. -/
def name (array : ArrayAlias) : Text :=
  array.element ++ "__".toList ++ array.length

/-- A name that can be read. -/
structure IsSpelled (array : ArrayAlias) : Prop where
  element : IsElement array.element
  length : IsLength array.length

instance (array : ArrayAlias) : Decidable array.IsSpelled :=
  decidable_of_iff (IsElement array.element ∧ IsLength array.length)
    ⟨fun both => ⟨both.1, both.2⟩, fun spelled => ⟨spelled.element, spelled.length⟩⟩

variable {array : ArrayAlias} {text rest line : Text}

/-- A character that is in no words of members is in no name of an array. -/
theorem IsSpelled.not_mem_name (spelled : array.IsSpelled) {c : Char}
    (other : isMemberChar c = false) : c ∉ array.name := by
  simp only [isMemberChar, Bool.or_eq_false_iff, beq_eq_false_iff_ne] at other
  obtain ⟨noNext, noUnderscore⟩ := other
  have apart := noNext
  simp only [isLowerOrDigit, Bool.or_eq_false_iff] at apart
  -- A first digit is a digit.
  have noFirst : isPositiveDigit c = false := by
    rw [Bool.eq_false_iff]
    intro positive
    have digit : isAsciiDigit c = true := by
      simp only [isPositiveDigit, isAsciiDigit, Bool.and_eq_true, decide_eq_true_eq] at positive ⊢
      exact ⟨Char.le_trans (by decide) positive.1, positive.2⟩
    simp [digit] at apart
  simp [name, noUnderscore, spelled.element.not_mem apart.1 noNext,
    spelled.length.not_mem noFirst apart.2]

/-- An array name is taken from a text that starts with it, if its length does not go on. -/
theorem take?_eq_some_iff : take? text = some (array, rest) ↔
    array.IsSpelled ∧ text = array.name ++ rest ∧ ∀ c ∈ rest.head?, isAsciiDigit c = false := by
  simp only [take?, Option.bind_eq_bind, Option.bind_eq_some_iff, Option.pure_def,
    Option.some.injEq, Prod.mk.injEq, Prod.exists, takeWord?_eq_some_iff, stripPrefix?_eq_some_iff]
  constructor
  · rintro ⟨element, _, ⟨rfl, isElement, -⟩, _, rfl, length, _, ⟨rfl, isLength, stop⟩, rfl, rfl⟩
    exact ⟨⟨isElement, isLength⟩, by simp [name], stop⟩
  · rintro ⟨spelled, rfl, stop⟩
    refine ⟨array.element, "__".toList ++ (array.length ++ rest),
      ⟨by simp [name], spelled.element, ?_⟩, _, rfl, array.length, rest,
      ⟨rfl, spelled.length, stop⟩, rfl, rfl⟩
    -- An underscore is no part of an element's name.
    rintro c ⟨⟩
    decide

/-- A line that defines an array names a type, the array and a bound in brackets; neither type nor
bound has to be that of the array. -/
theorem ofTypedef?_eq_some_iff : ofTypedef? line = some array ↔
    array.IsSpelled ∧ ∃ type bound rest, IsElement type ∧ IsLength bound ∧
      skipSpaces line = "typedef ".toList ++ type ++ [' '] ++ array.name ++ ['['] ++ bound ++
        "];".toList ++ rest := by
  simp only [ofTypedef?, Option.bind_eq_bind, Option.bind_eq_some_iff, Option.pure_def,
    Option.some.injEq, Prod.exists, takeWord?_eq_some_iff, stripPrefix?_eq_some_iff,
    take?_eq_some_iff]
  constructor
  · -- Each step of the reader names one part of the line.
    rintro ⟨_, whole, type, _, ⟨rfl, isType, -⟩, _, rfl, array, _, ⟨spelled, rfl, -⟩, _, rfl, bound,
      _, ⟨rfl, isBound, -⟩, rest, rfl, rfl⟩
    exact ⟨spelled, type, bound, rest, isType, isBound, by simp [← whole]⟩
  · rintro ⟨spelled, type, bound, rest, isType, isBound, whole⟩
    refine ⟨_, by rw [whole]; simp only [List.append_assoc], type, _, ⟨rfl, isType, ?_⟩, _, rfl,
      array, _, ⟨spelled, rfl, ?_⟩, _, rfl, bound, _, ⟨rfl, isBound, ?_⟩, rest, rfl, rfl⟩
    -- Each word is followed by a mark that is no part of it.
    all_goals
      rintro c ⟨⟩
      decide

end ArrayAlias

namespace ArrayMember

variable {member : ArrayMember} {line : Text}

/-- A line declares a member with an array name for its type, a space, and its name. -/
theorem ofLine?_eq_some_iff : ofLine? line = some member ↔
    member.indent = line.takeWhile (· == ' ') ∧ member.array.IsSpelled ∧ IsMemberName member.name ∧
      ∃ rest, skipSpaces line = member.array.name ++ [' '] ++ member.name ++ [';'] ++ rest := by
  simp only [ofLine?, Option.bind_eq_bind, Option.bind_eq_some_iff, Option.pure_def,
    Option.some.injEq, Prod.exists, takeWord?_eq_some_iff, stripPrefix?_eq_some_iff,
    ArrayAlias.take?_eq_some_iff]
  constructor
  · -- The array's name, the space, the member's name and the semicolon, in this order.
    rintro ⟨array, _, ⟨spelled, whole, -⟩, _, rfl, name, _, ⟨rfl, isName, -⟩, rest, rfl, rfl⟩
    exact ⟨rfl, spelled, isName, rest, by simp [whole]⟩
  · rintro ⟨indent, spelled, isName, rest, whole⟩
    refine ⟨member.array, _, ⟨spelled, by rw [whole]; simp only [List.append_assoc], ?_⟩, _, rfl,
      member.name, _, ⟨rfl, isName, ?_⟩, rest, rfl, by rw [← indent]⟩
    all_goals
      rintro c ⟨⟩
      decide

/-- A trimmed line that is so spelled declares that member. -/
theorem ofLine?_of_spelling (isLine : IsLine line) {array : ArrayAlias} {name rest : Text}
    (spelled : array.IsSpelled) (isName : IsMemberName name)
    (whole : line = array.name ++ [' '] ++ name ++ [';'] ++ rest) :
    ofLine? line = some ⟨[], array, name⟩ :=
  ofLine?_eq_some_iff.mpr
    ⟨isLine.indent_eq.symm, spelled, isName, rest, isLine.skipSpaces_eq.trans whole⟩

/-- A line that declares a member with an array name defines no array. -/
theorem ofTypedef?_of_member (isLine : IsLine line) (found : ofLine? line = some member) :
    ArrayAlias.ofTypedef? line = none := by
  cases typedef : ArrayAlias.ofTypedef? line with
  | none => rfl
  | some array =>
    obtain ⟨-, spelled, -, rest, declares⟩ := ofLine?_eq_some_iff.mp found
    obtain ⟨-, type, bound, more, -, -, defines⟩ := ArrayAlias.ofTypedef?_eq_some_iff.mp typedef
    rw [isLine.skipSpaces_eq] at declares defines
    -- The first word would be an array's name and a keyword, which has no underscore.
    have first :=
      Text.breakAt?_append (spelled.not_mem_name (c := ' ') rfl) (member.name ++ [';'] ++ rest)
    have same : member.array.name ++ ' ' :: (member.name ++ [';'] ++ rest) = "typedef".toList ++
        ' ' :: (type ++ [' '] ++ array.name ++ ['['] ++ bound ++ "];".toList ++ more) := by
      simpa using declares.symm.trans defines
    rw [same, Text.breakAt?_append (by decide)] at first
    have keyword : "typedef".toList = member.array.name := (Prod.mk.inj (Option.some.inj first)).1
    have underscore : '_' ∈ "typedef".toList := by simp [keyword, ArrayAlias.name]
    exact absurd underscore (by decide)

/-- A member of a trimmed line is written with no space before it. -/
theorem inlined_eq (isLine : IsLine line) (found : ofLine? line = some member) :
    member.inlined = member.array.element ++ ' ' ::
      (member.name ++ '[' :: (member.array.length ++ "];".toList)) := by
  simp [inlined, (ofLine?_eq_some_iff.mp found).1, isLine.indent_eq]

/-- A member whose array was written out starts with a small letter. -/
theorem head_inlined (isLine : IsLine line) (found : ofLine? line = some member) :
    ∃ c, member.inlined.head? = some c ∧ isLower c = true := by
  obtain ⟨c, more, shape, first, -⟩ := (ofLine?_eq_some_iff.mp found).2.1.element.exists_cons
  exact ⟨c, by simp [inlined_eq isLine found, shape], first⟩

/-- A member whose array was written out is in no comment. -/
theorem isComment_inlined (isLine : IsLine line) (found : ofLine? line = some member) :
    isComment member.inlined = false := by
  obtain ⟨c, head, lower⟩ := head_inlined isLine found
  refine isComment_of_head (isLine.inlined found).1 fun d first => ?_
  obtain rfl : c = d := Option.some.inj (head.symm.trans first)
  -- A small letter is neither sign.
  constructor <;> rintro rfl <;> simp [isLower] at lower

/-- A member whose array was written out has no reserved name. -/
theorem renameReserved_inlined (isLine : IsLine line) (found : ofLine? line = some member) :
    renameReserved member.inlined = member.inlined := by
  obtain ⟨-, spelled, isName, -⟩ := ofLine?_eq_some_iff.mp found
  rcases renameReserved_cases member.inlined with same |
    ⟨type, name, rest, noSpace, reserved, whole, -⟩
  · exact same
  -- The bracket would stand in the reserved name.
  rw [inlined_eq isLine found] at whole
  have element : ' ' ∉ member.array.element := spelled.element.not_mem rfl rfl
  have behind : member.name ++ '[' :: (member.array.length ++ [']']) ++ [';'] =
      name ++ ';' :: rest := by
    have first := Text.breakAt?_append element
      (member.name ++ '[' :: (member.array.length ++ "];".toList))
    rw [whole, Text.breakAt?_append noSpace] at first
    rw [(Prod.mk.inj (Option.some.inj first)).2]
    simp
  have plain : ';' ∉ member.name ++ '[' :: (member.array.length ++ [']']) := by
    simp [isName.not_mem (c := ';') rfl rfl, spelled.length.not_mem (c := ';') rfl rfl]
  have checked : ∀ name ∈ Member.reservedNames, ';' ∉ name ∧ '[' ∉ name := by decide
  have second := Text.breakAt?_append plain []
  rw [behind, Text.breakAt?_append (checked name reserved).1] at second
  obtain rfl := (Prod.mk.inj (Option.some.inj second)).1
  exact absurd (by simp) (checked _ reserved).2

end ArrayMember

end Cleanup
end IdlScout
