import IdlScout.Proofs.Idl.Passage

/-! Writing out the arrays that a text defines: members come to the array's own type and length, and
its name stays a type only on lines that use it in another way. -/

namespace IdlScout
namespace Cleanup

/-- A line that declares a member of an array, with nothing but the member's name behind the
type. -/
def IsMemberOf (array : ArrayAlias) (line : Text) : Prop :=
  ∃ name rest, IsMemberName name ∧ line = array.name ++ [' '] ++ name ++ [';'] ++ rest

/-- A name is used as a type: it is a word of its own, it is not the name that a member or an array
is given, and the line is none of the preprocessor's. -/
def UsesType (name line : Text) : Prop :=
  line.head? ≠ some '#' ∧ ∃ before after, line = before ++ name ++ after ∧
    (∀ c ∈ before.getLast?, isIdentifierChar c = false) ∧
    ∀ c ∈ after.head?, isIdentifierChar c = false ∧ c ≠ ';' ∧ c ≠ '['

/-- Characters of members are characters of identifiers. -/
theorem isIdentifierChar_of_isMemberChar {c : Char} (member : isMemberChar c = true) :
    isIdentifierChar c = true := by
  simp only [isMemberChar, isLowerOrDigit, isLower, Bool.or_eq_true] at member
  rcases member with (lower | digit) | underscore
  · simp [isIdentifierChar, isAsciiLetter, lower]
  · simp [isIdentifierChar, digit]
  · simp [isIdentifierChar, underscore]

namespace ArrayAlias

variable {array : ArrayAlias}

/-- An array's name has an underscore in it. -/
theorem underscore_mem_name (array : ArrayAlias) : '_' ∈ array.name := by
  simp [name]

/-- An array's name has a digit in it. -/
theorem IsSpelled.digit_mem_name (spelled : array.IsSpelled) :
    ∃ c ∈ array.name, isPositiveDigit c = true := by
  obtain ⟨c, more, shape, first, -⟩ := spelled.length.exists_cons
  exact ⟨c, by simp [name, shape], first⟩

end ArrayAlias

/-- A member whose array was written out uses no array's name as a type. -/
theorem not_usesType_inlined {array : ArrayAlias} (spelled : array.IsSpelled) {line : Text}
    {member : ArrayMember} (isLine : IsLine line) (found : ArrayMember.ofLine? line = some member) :
    ¬ UsesType array.name member.inlined := by
  rintro ⟨-, before, after, whole, -, stop⟩
  obtain ⟨-, own, -⟩ := ArrayMember.ofLine?_eq_some_iff.mp found
  have words := (of_ofLine? found).2.2
  rw [ArrayMember.inlined_eq isLine found] at whole
  have underscore := array.underscore_mem_name
  rcases Text.of_append_cons_eq (spelled.not_mem_name rfl) whole with ⟨gap, inElement, -⟩ |
    ⟨gap, -, behind⟩
  · -- The name of a primitive type has no underscore.
    exact absurd (by simp [inElement, underscore]) (own.element.not_mem (c := '_') rfl rfl)
  · rcases Text.of_append_cons_eq (spelled.not_mem_name rfl) behind with ⟨more, inName, next⟩ |
      ⟨more, -, inLength⟩
    · -- The member's name could be the array's, but a bracket follows it.
      cases more with
      | nil => exact (stop '[' (by simp [next])).2.2 rfl
      | cons d more =>
        have inside : isMemberChar d = true := words d (by simp [inName])
        have outside := (stop d (by simp [next])).1
        rw [isIdentifierChar_of_isMemberChar inside] at outside
        cases outside
    · -- A length has no underscore either.
      have absent : '_' ∉ member.array.length ++ "];".toList := by
        simp [own.length.not_mem (c := '_') rfl rfl]
      exact absent (by rw [inLength]; simp [underscore])

/-- A name that a renamed line uses as a type is so used by the line. -/
theorem usesType_of_renameReserved {array : ArrayAlias} (spelled : array.IsSpelled) {line : Text}
    (isLine : IsLine line) (uses : UsesType array.name (renameReserved line)) :
    UsesType array.name line := by
  obtain ⟨noSign, before, after, whole, start, stop⟩ := uses
  rw [head_renameReserved isLine.head_ne_space] at noSign
  refine ⟨noSign, ?_⟩
  rcases renameReserved_cases line with same | ⟨type, name, rest, -, reserved, rfl, renamed⟩
  · exact ⟨before, after, same.symm.trans whole, start, stop⟩
  rw [renamed] at whole
  rcases Text.of_append_cons_eq (spelled.not_mem_name rfl) whole with ⟨gap, inType, rfl⟩ |
    ⟨gap, -, inName⟩
  · -- In the first word all is as it was, and so is what stands next to it.
    refine ⟨before, gap ++ ' ' :: (name ++ ';' :: rest), by simp [inType], start, ?_⟩
    cases gap with
    | nil => exact stop
    | cons c gap => exact stop
  · -- Reserved names have no digits.
    have checked : ∀ name ∈ Member.reservedNames,
        (name ++ ['_', ';']).any isPositiveDigit = false := by decide
    obtain ⟨c, inside, digit⟩ := spelled.digit_mem_name
    have none := List.any_eq_false.mp (checked name reserved) c (by simp [inName, inside])
    exact absurd digit none

/-- Behind the definition of an array, members of it come out with its element type and its length,
and its name is used as a type only where a line uses it in another way. -/
theorem cleanLines_of_typedef {text line : Text} {earlier later : List Text} {array : ArrayAlias}
    (pieces : Text.cut '\n' text = earlier ++ line :: later)
    (defined : ArrayAlias.ofTypedef? (Text.trim line) = some array) :
    ∃ back, cleanLines text = cleanLines (Text.join ['\n'] earlier) ++ back ∧
      (∀ use ∈ later, ∀ name rest, IsMemberName name →
        Text.trim use = array.name ++ [' '] ++ name ++ [';'] ++ rest →
        array.element ++ [' '] ++ name ++ ['['] ++ array.length ++ "];".toList ∈ back) ∧
      ∀ out ∈ back, UsesType array.name out → ∃ use ∈ later,
        out = renameReserved (Text.trim use) ∧ UsesType array.name (Text.trim use) ∧
          ¬ IsMemberOf array (Text.trim use) := by
  have spelled := (ArrayAlias.ofTypedef?_eq_some_iff.mp defined).1
  -- A line that defines something is not blank.
  have nonempty : Text.trim line ≠ [] := fun empty => by
    rw [empty] at defined
    cases defined
  obtain ⟨known, back, -, whole, woven⟩ := cleanLines_append pieces
  -- The definition itself leaves nothing but the knowledge of its array.
  have first :
      finish known (visible (line :: later)) = finish (array :: known) (visible later) := by
    have split : visible (line :: later) = Text.trim line :: visible later := by
      simp [visible, nonempty]
    have dropped : outcome? known (Text.trim line) = none := by
      simp [outcome?, written?, defined]
    rw [split, finish_cons, dropped, defined]
    rfl
  rw [first] at woven
  have parts : Text.cut '\n' text = (earlier ++ [line]) ++ later := by simpa using pieces
  have isLine : ∀ line ∈ visible later, IsLine line := fun _ => isLine_of_mem_visible parts
  refine ⟨back, whole, fun use listed name rest isName spelling => woven.mem ?_,
    fun out listed uses => ?_⟩
  · -- Every member behind the definition is met with the array known.
    have inLater : Text.trim use ∈ visible later :=
      mem_visible.mpr ⟨by simp [spelling], use, listed, rfl⟩
    have found := ArrayMember.ofLine?_of_spelling (isLine _ inLater) spelled isName spelling
    exact mem_finish inLater fun other more =>
      outcome?_of_known (isLine _ inLater) found (more (by simp))
  · -- Lines of guards are the preprocessor's.
    obtain ⟨line, inLater, other, more, becomes⟩ :=
      of_mem_finish ((woven.of_mem listed).resolve_right uses.1)
    obtain ⟨-, use, inText, rfl⟩ := mem_visible.mp inLater
    -- A line that comes out is a member that was written out, which uses the type no more, or the
    -- line.
    rcases of_outcome? (isLine _ inLater) becomes with ⟨member, found, -, rfl⟩ | ⟨rfl, unknown⟩
    · exact absurd uses (not_usesType_inlined spelled (isLine _ inLater) found)
    · refine ⟨use, inText, rfl, usesType_of_renameReserved spelled (isLine _ inLater) uses, ?_⟩
      rintro ⟨name, rest, isName, spelling⟩
      have found := ArrayMember.ofLine?_of_spelling (isLine _ inLater) spelled isName spelling
      exact unknown _ found (more (by simp))

end Cleanup

open Cleanup

/-- Behind the definition of an array by its own element type and length, every member of it comes
out with that type and that length, and its name is used as a type only on lines that came with
another use of it and that are otherwise as they came. -/
theorem cleanUp_inlines_array {text line rest : Text} {earlier later : List Text}
    {array : ArrayAlias} (pieces : Text.cut '\n' text = earlier ++ line :: later)
    (spelled : array.IsSpelled)
    (defined : Text.trim line = "typedef ".toList ++ array.element ++ [' '] ++ array.name ++ ['['] ++
      array.length ++ "];".toList ++ rest) :
    ∃ back : List Text, cleanUp text =
        cleanUp (Text.join ['\n'] earlier) ++ back.flatMap (fun out => out ++ ['\n']) ∧
      (∀ use ∈ later, ∀ name rest, IsMemberName name →
        Text.trim use = array.name ++ [' '] ++ name ++ [';'] ++ rest →
        array.element ++ [' '] ++ name ++ ['['] ++ array.length ++ "];".toList ∈ back) ∧
      ∀ out ∈ back, UsesType array.name out → ∃ use ∈ later,
        out = renameReserved (Text.trim use) ∧ UsesType array.name (Text.trim use) ∧
          ¬ IsMemberOf array (Text.trim use) := by
  -- By its own element type and length the array is the one that is read.
  have found : ArrayAlias.ofTypedef? (Text.trim line) = some array := by
    refine ArrayAlias.ofTypedef?_eq_some_iff.mpr
      ⟨spelled, array.element, array.length, rest, spelled.element, spelled.length, ?_⟩
    have head : (Text.trim line).head? ≠ some ' ' := by simp [defined]
    rw [(no_indent head).2, defined]
  obtain ⟨back, whole, members, others⟩ := cleanLines_of_typedef pieces found
  exact ⟨back, by rw [cleanUp, cleanUp, whole, List.flatMap_append], members, others⟩

/-- Of two members of an array, one behind an annotation, the other comes out with the array. -/
theorem cleanUp_inlines_array_of_nine :
    let text := "typedef double double__9[9];\n  double__9 cov;\n  @key double__9 x;".toList
    let line := "typedef double double__9[9];".toList
    let later := ["  double__9 cov;".toList, "  @key double__9 x;".toList]
    let array : ArrayAlias := ⟨"double".toList, ['9']⟩
    Text.cut '\n' text = [] ++ line :: later ∧ array.IsSpelled ∧
      Text.trim line = "typedef ".toList ++ array.element ++ [' '] ++ array.name ++ ['['] ++
        array.length ++ "];".toList ++ [] ∧
      ∃ back : List Text, cleanUp text =
          cleanUp (Text.join ['\n'] []) ++ back.flatMap (fun out => out ++ ['\n']) ∧
        "double cov[9];".toList ∈ back := by
  intro text line later array
  have pieces : Text.cut '\n' text = [] ++ line :: later := by decide
  have spelled : array.IsSpelled := by decide
  have defined : Text.trim line = "typedef ".toList ++ array.element ++ [' '] ++ array.name ++
      ['['] ++ array.length ++ "];".toList ++ [] := by decide
  obtain ⟨back, whole, members, -⟩ := cleanUp_inlines_array pieces spelled defined
  exact ⟨pieces, spelled, defined, back, whole,
    members "  double__9 cov;".toList (by simp [later]) "cov".toList [] (by decide) (by decide)⟩

/-- An array's name stays a type behind an annotation, in front of a name with a capital letter, and
inside a sequence; and a member comes to the type and the length of the array's name where the
definition has others. -/
theorem cleanUp_leaves_array_name :
    let array : ArrayAlias := ⟨"double".toList, ['9']⟩
    (∀ use ∈ ["@key double__9 x;".toList, "double__9 Cov;".toList,
        "sequence<double__9> x;".toList],
      cleanUp ("typedef double double__9[9];\n".toList ++ use) = use ++ ['\n'] ∧
        UsesType array.name use) ∧
      cleanUp "typedef float double__9[3];\ndouble__9 x;".toList = "double x[9];\n".toList := by
  intro array
  have key : UsesType array.name "@key double__9 x;".toList :=
    ⟨by decide, "@key ".toList, " x;".toList, by decide, by rintro c ⟨⟩; decide,
      by rintro c ⟨⟩; decide⟩
  have capital : UsesType array.name "double__9 Cov;".toList :=
    ⟨by decide, [], " Cov;".toList, by decide, nofun, by rintro c ⟨⟩; decide⟩
  have inside : UsesType array.name "sequence<double__9> x;".toList :=
    ⟨by decide, "sequence<".toList, "> x;".toList, by decide, by rintro c ⟨⟩; decide,
      by rintro c ⟨⟩; decide⟩
  refine ⟨fun use listed => ?_, by decide⟩
  simp only [List.mem_cons, List.not_mem_nil, or_false] at listed
  rcases listed with rfl | rfl | rfl
  · exact ⟨by decide, key⟩
  · exact ⟨by decide, capital⟩
  · exact ⟨by decide, inside⟩

end IdlScout
