import IdlScout.Proofs.Idl.Spelling

/-! The types that members are written with, and how the innermost of them is found. -/

namespace IdlScout

/-- The characters in the name of a type. -/
def isNameChar (c : Char) : Bool :=
  isWord c || c == ':' || isBlank c

/-- The name of a type: a scoped name, or a primitive type of one word or several. -/
structure TypeName where
  text : Text
  nonempty : text ≠ []
  trimmed : IsTrimmed text
  made : text.all isNameChar = true
  undigited : text.head?.all (!isAsciiDigit ·) = true
  /-- Blanks are only between the words of a primitive type. -/
  whole : ':' ∉ text ∨ IsVisibleText text

/-- The characters of a bound and of the blanks around it. -/
def isBoundChar (c : Char) : Bool :=
  isAsciiDigit c || isBlank c

/-- The bound of a string or of a sequence. -/
structure BoundText where
  before : Gap
  digits : Text
  after : Gap
  decimal : digits.all isAsciiDigit = true

namespace BoundText

/-- A bound with the blanks around it. -/
def text (bound : BoundText) : Text :=
  bound.before.text ++ bound.digits ++ bound.after.text

/-- The bound of a string. -/
def bracketed (bound : BoundText) : Text :=
  '<' :: (bound.text ++ ['>'])

/-- The bound of a sequence. -/
def listed (bound : BoundText) : Text :=
  ',' :: bound.text

end BoundText

/-- The type of a member as it is written. -/
inductive TypeText where
  | named (name : TypeName)
  | string (bound : Option BoundText)
  | sequence (before : Gap) (element : TypeText) (after : Gap) (bound : Option BoundText)

namespace TypeText

/-- The word that a string type starts with. -/
def stringWord : Text := "string".toList

/-- The word that a sequence type starts with. -/
def sequenceWord : Text := "sequence".toList

/-- The characters of a type. -/
def text : TypeText → Text
  | .named name => name.text
  | .string bound => stringWord ++ bound.elim [] BoundText.bracketed
  | .sequence before element after bound =>
    sequenceWord ++ '<' :: (before.text ++ (element.text ++ (after.text ++
      (bound.elim [] BoundText.listed ++ ['>']))))

/-- The element type inside any number of sequences. -/
def innermost : TypeText → TypeText
  | .sequence _ element _ _ => element.innermost
  | type => type

/-- The innermost element type, if a separator is in its name. -/
def reference? (type : TypeText) : Option Text :=
  if ScopedName.isScoped type.innermost.text then some type.innermost.text else none

end TypeText

/-- A name has no other character. -/
theorem TypeName.not_mem (name : TypeName) {c : Char} (sign : isNameChar c = false) :
    c ∉ name.text := fun member => by
  simp [List.all_eq_true.mp name.made c member] at sign

/-- A bound has no other character. -/
theorem BoundText.not_mem (bound : BoundText) {c : Char} (sign : isBoundChar c = false) :
    c ∉ bound.text := by
  simp only [isBoundChar, Bool.or_eq_false_iff] at sign
  -- Only the two gaps and the digits make up a bound.
  have inDigits : c ∉ bound.digits := fun member => by
    simp [List.all_eq_true.mp bound.decimal c member] at sign
  simp [text, inDigits, bound.before.blank.not_mem sign.2, bound.after.blank.not_mem sign.2]

/-- A name lacks all other characters. -/
theorem TypeName.lacks (name : TypeName) {signs : Text}
    (apart : signs.all (!isNameChar ·) = true) : Text.Lacks name.text signs :=
  fun c member listed =>
    name.not_mem (by simpa using List.all_eq_true.mp apart c listed) member

/-- A bound lacks all other characters. -/
theorem BoundText.lacks (bound : BoundText) {signs : Text}
    (apart : signs.all (!isBoundChar ·) = true) : Text.Lacks bound.text signs :=
  fun c member listed =>
    bound.not_mem (by simpa using List.all_eq_true.mp apart c listed) member

/-- Blanks lack all visible signs. -/
theorem Gap.lacks (gap : Gap) {signs : Text} (visible : IsVisibleText signs) :
    Text.Lacks gap.text signs :=
  fun c member listed => gap.blank.not_mem (visible c listed) member

namespace TypeText

/-- A type starts with a letter, an underscore or a colon. -/
theorem exists_cons (type : TypeText) : ∃ c rest, type.text = c :: rest ∧
    isBlank c = false ∧ isAsciiDigit c = false ∧ c ≠ '@' ∧ c ≠ '(' := by
  -- The two built-in types start with a letter; a name is never empty.
  cases type with
  | named name =>
    obtain ⟨c, rest, shape⟩ := List.exists_cons_of_ne_nil name.nonempty
    have inside : c ∈ name.text := by simp [shape]
    refine ⟨c, rest, shape, name.trimmed.1 c (by simp [shape]),
      by simpa [shape] using name.undigited, ?_, ?_⟩ <;>
        (rintro rfl; exact name.not_mem (by decide) inside)
  | string bound => exact ⟨'s', _, rfl, by decide⟩
  | sequence => exact ⟨'s', _, rfl, by decide⟩

/-- No digit starts a type, not even behind blanks. -/
theorem undigited_behind (gap : Gap) (type : TypeText) (rest : Text) :
    ∀ c ∈ (gap.text ++ (type.text ++ rest)).head?, isAsciiDigit c = false := by
  intro c first
  -- Behind an empty gap is the type itself; otherwise a blank is first, and no blank is a digit.
  cases shape : gap.text with
  | nil =>
    obtain ⟨d, more, written, -, undigited, -⟩ := type.exists_cons
    obtain rfl : d = c := by simpa [shape, written] using first
    exact undigited
  | cons d more =>
    obtain rfl : d = c := by simpa [shape] using first
    have apart : (!isAsciiDigit d) = true :=
      of_isBlank (p := fun c => !isAsciiDigit c) (by decide) (gap.blank d (by simp [shape]))
    simpa using apart

/-- A type ends in no blank. -/
theorem last_visible (type : TypeText) : ∀ c ∈ type.text.getLast?, isBlank c = false := by
  -- A string with a bound and every sequence end with the bracket.
  have bracket {front : Text} : ∀ c ∈ (front ++ ['>']).getLast?, isBlank c = false := by
    intro c last
    obtain rfl : '>' = c := Option.some.inj (List.getLast?_concat.symm.trans last)
    decide
  cases type with
  | named name => exact name.trimmed.2
  | string bound =>
    cases bound with
    | none => exact (by decide : IsTrimmed (stringWord ++ [])).2
    | some bound =>
      simp only [text, Option.elim_some, BoundText.bracketed, ← List.cons_append,
        ← List.append_assoc]
      exact bracket
  | sequence before element after bound =>
    simp only [text, ← List.cons_append, ← List.append_assoc]
    exact bracket

/-- A type has no blanks at its ends. -/
theorem trimmed (type : TypeText) : IsTrimmed type.text := by
  obtain ⟨c, rest, shape, visible, -⟩ := type.exists_cons
  refine ⟨fun d first => ?_, type.last_visible⟩
  obtain rfl : c = d := by simpa [shape] using first
  exact visible

/-- A type ends neither a member nor a declaration. -/
theorem solid (type : TypeText) : Text.Lacks type.text [';', '\x7d'] := by
  -- Every part that is not a type itself is checked once.
  have bounds (bound : BoundText) : Text.Lacks bound.text [';', '\x7d'] := bound.lacks (by decide)
  have blanks (gap : Gap) : Text.Lacks gap.text [';', '\x7d'] := gap.lacks (by decide)
  have signs : Text.Lacks ['<', ',', '>'] [';', '\x7d'] := by decide
  have words : Text.Lacks stringWord [';', '\x7d'] ∧ Text.Lacks sequenceWord [';', '\x7d'] := by
    decide
  have nothing : Text.Lacks [] [';', '\x7d'] := by decide
  induction type with
  | named name => exact name.lacks (by decide)
  | string bound =>
    cases bound with
    | none => simp only [text, Text.lacks_append]; exact ⟨words.1, nothing⟩
    | some bound =>
      simp only [text, Option.elim_some, BoundText.bracketed, Text.lacks_append, Text.lacks_cons]
      exact ⟨words.1, signs '<' (by simp), bounds bound, signs '>' (by simp), nothing⟩
  | sequence before element after bound ih =>
    simp only [text, Text.lacks_append, Text.lacks_cons]
    refine ⟨words.2, signs '<' (by simp), blanks before, ih, blanks after, ?_, signs '>' (by simp),
      nothing⟩
    -- A sequence without a bound has nothing between its element and its bracket.
    cases bound with
    | none => exact nothing
    | some bound =>
      exact Text.lacks_cons.mpr ⟨signs ',' (by simp), bounds bound⟩

/-- A string refers to nothing, whatever its bound. -/
theorem reference?_string (bound : Option BoundText) : (string bound).reference? = none := by
  -- A string has no colon at all, and every scoped name has one.
  have absent : ':' ∉ (string bound).text := by
    cases bound with
    | none => decide
    | some bound =>
      simp [text, stringWord, BoundText.bracketed, bound.not_mem (c := ':') (by decide)]
  have flat : ScopedName.isScoped (string bound).innermost.text = false :=
    ScopedName.isScoped_of_not_mem absent
  simp [reference?, flat]

end TypeText

/-! ## Without the bounds that stand for none -/

/-- A bound written as the one that stands for none, with no blanks around it, is no bound. -/
def BoundText.kept? (bound : BoundText) : Option BoundText :=
  if bound.text = Declaration.unboundedSentinel then none else some bound

namespace TypeText

/-- A type without such bounds of its strings. -/
def withoutBracketed : TypeText → TypeText
  | .named name => .named name
  | .string bound => .string (bound.bind BoundText.kept?)
  | .sequence before element after bound => .sequence before element.withoutBracketed after bound

/-- A type without such bounds of its sequences. -/
def withoutListed : TypeText → TypeText
  | .named name => .named name
  | .string bound => .string bound
  | .sequence before element after bound =>
    .sequence before element.withoutListed after (bound.bind BoundText.kept?)

/-- Without bounds of strings a type refers to the same. -/
theorem reference?_withoutBracketed (type : TypeText) :
    type.withoutBracketed.reference? = type.reference? := by
  -- The innermost type of a sequence is that of its element, which keeps what it refers to.
  induction type with
  | named => rfl
  | string => exact (reference?_string _).trans (reference?_string _).symm
  | sequence before element after bound ih => exact ih

/-- Without bounds of sequences a type refers to the same. -/
theorem reference?_withoutListed (type : TypeText) :
    type.withoutListed.reference? = type.reference? := by
  induction type with
  | named => rfl
  | string => rfl
  | sequence before element after bound ih => exact ih

end TypeText

namespace Declaration

/-- A bound goes if it is the one that stands for none, and stays with all blanks if not. -/
theorem replace_bound {mark : Char} (sign : isBoundChar mark = false)
    (other : mark ≠ '>') (new : Text) (bound : BoundText) (rest : Text) :
    Text.replace (mark :: unboundedSentinel ++ ['>']) new (mark :: (bound.text ++ '>' :: rest)) =
      (if bound.text = unboundedSentinel then new else mark :: (bound.text ++ ['>'])) ++
        Text.replace (mark :: unboundedSentinel ++ ['>']) new rest := by
  -- The bracket that closes the bound is the first one, so only the whole bound can be matched.
  have starts : mark :: unboundedSentinel ++ ['>'] <+: mark :: bound.text ++ '>' :: rest ↔
      mark :: unboundedSentinel = mark :: bound.text := by
    refine Text.concat_prefix_iff ?_ ?_
    · simpa [other.symm] using (by decide : '>' ∉ unboundedSentinel)
    · simp [other.symm, bound.not_mem (c := '>') (by decide)]
  -- The whole mark is matched at once, or the replacement goes past the bound.
  split
  case isTrue unbounded =>
    have dropped := Text.replace_mark_append mark (unboundedSentinel ++ ['>']) new rest
    simpa [unbounded] using dropped
  case isFalse bounded =>
    have kept : ¬ mark :: unboundedSentinel ++ ['>'] <+: mark :: (bound.text ++ '>' :: rest) := by
      rw [← List.cons_append, starts, List.cons.injEq]
      exact fun same => bounded same.2.symm
    have inside : mark ∉ bound.text ++ ['>'] := by simp [bound.not_mem sign, other]
    have passed := Text.replace_append inside (unboundedSentinel ++ ['>']) new rest
    rw [Text.replace_cons kept, List.cons_append]
    simpa using passed

/-- No bound starts where no digit follows the bracket. -/
theorem not_prefix_bracketed {text : Text} (undigited : ∀ c ∈ text.head?, isAsciiDigit c = false) :
    ¬ '<' :: unboundedSentinel ++ ['>'] <+: '<' :: text := by
  -- A match would need the first digit of the sentinel there.
  intro starts
  rw [List.cons_append, List.cons_prefix_cons] at starts
  obtain ⟨more, rfl⟩ := starts.2
  exact absurd (undigited '2' rfl) (by decide)

/-- The first pass removes the bounds of strings, which are alone in their brackets. -/
theorem replace_bracketed (type : TypeText) (rest : Text) :
    Text.replace ('<' :: unboundedSentinel ++ ['>']) [] (type.text ++ rest) =
      type.withoutBracketed.text ++
        Text.replace ('<' :: unboundedSentinel ++ ['>']) [] rest := by
  -- What follows the type is left open, so that the element of a sequence is a case of it.
  induction type generalizing rest with
  | named name => exact Text.replace_append (name.not_mem (by decide)) _ _ _
  | string bound =>
    have word : '<' ∉ TypeText.stringWord := by decide
    cases bound with
    | none => exact Text.replace_append word _ _ _
    | some bound =>
      -- Only here does the pass find its mark; whether it drops it is the bound's own question.
      have settled := replace_bound (by decide : isBoundChar '<' = false) (by decide) [] bound rest
      rw [TypeText.text, List.append_assoc, List.cons_append, Text.replace_append word,
        ← List.cons_append, Option.elim_some, BoundText.bracketed]
      simp only [List.cons_append, List.append_assoc, List.nil_append] at settled ⊢
      rw [settled, TypeText.withoutBracketed, Option.bind_some, BoundText.kept?]
      split <;> simp [TypeText.text, BoundText.bracketed]
  | sequence before element after bound ih =>
    have word : '<' ∉ TypeText.sequenceWord := by decide
    have lead : '<' ∉ before.text := before.blank.not_mem (by decide)
    -- Behind the element nothing opens a bracket.
    have tail : '<' ∉ after.text ++ (bound.elim [] BoundText.listed ++ ['>']) := by
      have gap : '<' ∉ after.text := after.blank.not_mem (by decide)
      cases bound with
      | none => simp [gap]
      | some bound => simp [gap, BoundText.listed, bound.not_mem (c := '<') (by decide)]
    -- No digit follows the bracket of a sequence.
    have kept := not_prefix_bracketed (element.undigited_behind before
      (after.text ++ (bound.elim [] BoundText.listed ++ ['>']) ++ rest))
    have opened := Text.replace_append word (unboundedSentinel ++ ['>']) []
    have led := Text.replace_append lead (unboundedSentinel ++ ['>']) []
    have ended := Text.replace_append tail (unboundedSentinel ++ ['>']) [] rest
    simp only [TypeText.text, TypeText.withoutBracketed, List.append_assoc, List.cons_append]
      at ih kept opened led ended ⊢
    rw [opened, Text.replace_cons kept, led, ih, ended]

/-- The second pass removes the bounds of sequences, which stand behind a comma. -/
theorem replace_listed (type : TypeText) (rest : Text) :
    Text.replace (',' :: unboundedSentinel ++ ['>']) ['>'] (type.text ++ rest) =
      type.withoutListed.text ++
        Text.replace (',' :: unboundedSentinel ++ ['>']) ['>'] rest := by
  -- As in the first pass, with the comma for the bracket.
  induction type generalizing rest with
  | named name => exact Text.replace_append (name.not_mem (by decide)) _ _ _
  | string bound =>
    have absent : ',' ∉ (TypeText.string bound).text := by
      cases bound with
      | none => decide
      | some bound => simp [TypeText.text, TypeText.stringWord, BoundText.bracketed,
          bound.not_mem (c := ',') (by decide)]
    rw [List.cons_append, Text.replace_append absent, TypeText.withoutListed]
  | sequence before element after bound ih =>
    have lead : ',' ∉ before.text := before.blank.not_mem (by decide)
    have word : ',' ∉ TypeText.sequenceWord ++ ['<'] := by decide
    have gap : ',' ∉ after.text := after.blank.not_mem (by decide)
    have opened := Text.replace_append word (unboundedSentinel ++ ['>']) ['>']
    have led := Text.replace_append lead (unboundedSentinel ++ ['>']) ['>']
    have ended := Text.replace_append gap (unboundedSentinel ++ ['>']) ['>']
    simp only [TypeText.text, TypeText.withoutListed, List.append_assoc, List.cons_append,
      List.nil_append] at ih opened led ended ⊢
    rw [opened, led, ih, ended]
    -- Without a bound no comma follows the element; with one the comma opens the bound.
    cases bound with
    | none =>
      have closed := Text.replace_append (by decide : ',' ∉ ['>']) (unboundedSentinel ++ ['>'])
        ['>'] rest
      simpa using closed
    | some bound =>
      have settled := replace_bound (by decide : isBoundChar ',' = false) (by decide) ['>'] bound
        rest
      simp only [List.cons_append] at settled
      simp only [Option.elim_some, BoundText.listed, Option.bind_some, BoundText.kept?,
        List.cons_append, settled]
      split <;> simp [BoundText.listed]

/-- Without the bounds that stand for none a type is one with other bounds. -/
theorem dropUnbounded_type (type : TypeText) (rest : Text) :
    dropUnbounded (type.text ++ rest) =
      type.withoutBracketed.withoutListed.text ++ dropUnbounded rest := by
  -- The second pass goes over what the first has left, which is a type again.
  rw [dropUnbounded, replace_bracketed, replace_listed, dropUnbounded]

end Declaration

/-! ## On one line -/

/-- A character is no less a blank on one line. -/
theorem isBlank_onOneLine (c : Char) : isBlank (if c = '\n' then ' ' else c) = isBlank c := by
  -- The only character that is changed is a line ending, and both spellings of it are blank.
  split
  case isTrue same =>
    subst same
    decide
  case isFalse => rfl

/-- Blanks on one line. -/
def Gap.oneLine (gap : Gap) : Gap :=
  ⟨Declaration.onOneLine gap.text, Declaration.onOneLine_blank gap.blank⟩

/-- Blanks that must stand, on one line. -/
def Break.oneLine (gap : Break) : Break :=
  ⟨gap.toGap.oneLine, by simpa [Gap.oneLine, Declaration.onOneLine] using gap.nonempty⟩

/-- A bound on one line. -/
def BoundText.oneLine (bound : BoundText) : BoundText :=
  ⟨bound.before.oneLine, bound.digits, bound.after.oneLine, bound.decimal⟩

namespace Declaration

/-- A bound on one line is a bound. -/
theorem onOneLine_bound (bound : BoundText) : onOneLine bound.text = bound.oneLine.text := by
  -- Digits are no line endings, so only the gaps change.
  have single : '\n' ∉ bound.digits := fun member =>
    absurd (List.all_eq_true.mp bound.decimal _ member) (by decide)
  rw [BoundText.text, onOneLine_append, onOneLine_append, onOneLine_of_not_mem single]
  rfl

end Declaration

/-- A name on one line. -/
def TypeName.oneLine (name : TypeName) : TypeName where
  text := Declaration.onOneLine name.text
  nonempty := by simpa [Declaration.onOneLine] using name.nonempty
  trimmed := by
    refine ⟨fun c first => ?_, fun c last => ?_⟩
    · obtain ⟨d, inside, rfl⟩ := Option.map_eq_some_iff.mp (List.head?_map.symm.trans first)
      exact (isBlank_onOneLine d).trans (name.trimmed.1 d inside)
    · obtain ⟨d, inside, rfl⟩ := Option.map_eq_some_iff.mp (List.getLast?_map.symm.trans last)
      exact (isBlank_onOneLine d).trans (name.trimmed.2 d inside)
  made := by
    refine List.all_eq_true.mpr fun c member => ?_
    obtain ⟨d, inside, rfl⟩ := List.mem_map.mp member
    split
    · decide
    · exact List.all_eq_true.mp name.made d inside
  undigited := by
    have undigited := name.undigited
    rw [Declaration.onOneLine, List.head?_map]
    cases first : name.text.head? with
    | none => rfl
    | some d =>
      rw [first] at undigited
      simp only [Option.map_some, Option.all_some] at undigited ⊢
      split
      · decide
      · exact undigited
  whole := by
    refine name.whole.imp (Declaration.not_mem_onOneLine (by decide)) fun visible c member => ?_
    obtain ⟨d, inside, rfl⟩ := List.mem_map.mp member
    exact (isBlank_onOneLine d).trans (visible d inside)

/-- A type on one line. -/
def TypeText.oneLine : TypeText → TypeText
  | .named name => .named name.oneLine
  | .string bound => .string (bound.map BoundText.oneLine)
  | .sequence before element after bound =>
    .sequence before.oneLine element.oneLine after.oneLine (bound.map BoundText.oneLine)

namespace TypeText

/-- On one line a type refers to the same. -/
theorem reference?_oneLine (type : TypeText) : type.oneLine.reference? = type.reference? := by
  induction type with
  | named name =>
    -- A line feed is only in a name of several words, and such a name refers to nothing.
    rcases name.whole with flat | visible
    · have still : ':' ∉ name.oneLine.text := Declaration.not_mem_onOneLine (by decide) flat
      simp [oneLine, reference?, innermost, text, ScopedName.isScoped_of_not_mem still,
        ScopedName.isScoped_of_not_mem flat]
    · have same : name.oneLine.text = name.text :=
        Declaration.onOneLine_of_not_mem fun member => absurd (visible _ member) (by decide)
      simp [oneLine, reference?, innermost, text, same]
  | string bound => exact (reference?_string _).trans (reference?_string _).symm
  | sequence before element after bound ih => exact ih

/-- A type on one line is written as its text on one line. -/
theorem text_oneLine (type : TypeText) :
    type.oneLine.text = Declaration.onOneLine type.text := by
  have opened := Declaration.onOneLine_cons (by decide : isBlank '<' = false)
  have parted := Declaration.onOneLine_cons (by decide : isBlank ',' = false)
  -- The words and the marks are on one line already; gaps, bounds and elements are put on one.
  induction type with
  | named name => rfl
  | string bound =>
    cases bound with
    | none => decide
    | some bound =>
      simp only [text, Option.elim_some, BoundText.bracketed, Declaration.onOneLine_append, opened,
        Declaration.onOneLine_bound]
      rfl
  | sequence before element after bound ih =>
    cases bound with
    | none =>
      simp only [text, Declaration.onOneLine_append, opened, ← ih]
      rfl
    | some bound =>
      simp only [text, Option.elim_some, BoundText.listed, Declaration.onOneLine_append, opened,
        parted, Declaration.onOneLine_bound, ← ih]
      rfl

/-- A type as it is left by the passes before a declaration is read. -/
def settled (type : TypeText) : TypeText :=
  type.withoutBracketed.withoutListed.oneLine

/-- What is left of a type refers to the same. -/
theorem reference?_settled (type : TypeText) : type.settled.reference? = type.reference? :=
  (reference?_oneLine _).trans ((reference?_withoutListed _).trans (reference?_withoutBracketed _))

end TypeText

/-! ## The innermost type -/

namespace Member

/-- A character that ends nothing here is before the last comma if there is one. -/
theorem beforeLastComma_cons {c : Char} {depth : Nat} (other : c ≠ ',' ∨ depth ≠ 0) (rest : Text) :
    beforeLastComma depth (c :: rest) =
      (beforeLastComma (if c = '<' then depth + 1 else if c = '>' then depth - 1 else depth)
        rest).map (c :: ·) := by
  -- A comma inside brackets is passed by, as any other character.
  have passed : ¬ (c = ',' && depth == 0) = true := by
    simpa [Decidable.imp_iff_not_or] using other
  rw [beforeLastComma]
  generalize beforeLastComma _ rest = later
  cases later with
  | none => simp only [if_neg passed, Option.map_none]
  | some kept => rfl

/-- A text without brackets and commas is before the last comma if there is one. -/
theorem beforeLastComma_append {plain : Text} (lacks : Text.Lacks plain ['<', '>', ','])
    (depth : Nat) (rest : Text) :
    beforeLastComma depth (plain ++ rest) = (beforeLastComma depth rest).map (plain ++ ·) := by
  -- The depth stays as it was, since nothing opens or closes a bracket.
  induction plain with
  | nil => simp
  | cons c plain ih =>
    have first : c ∉ ['<', '>', ','] := lacks c (by simp)
    simp only [List.mem_cons, List.not_mem_nil, or_false, not_or] at first
    rw [List.cons_append, beforeLastComma_cons (.inl first.2.2), if_neg first.1, if_neg first.2.1,
      ih fun d member => lacks d (List.mem_cons_of_mem _ member), Option.map_map]
    rfl

/-- A type has no comma outside its own brackets, so it is before the last one as a whole. -/
theorem beforeLastComma_type (type : TypeText) (depth : Nat) (rest : Text) :
    beforeLastComma depth (type.text ++ rest) =
      (beforeLastComma depth rest).map (type.text ++ ·) := by
  have opened (depth : Nat) := @beforeLastComma_cons '<' depth (.inl (by decide))
  have closed (depth : Nat) := @beforeLastComma_cons '>' depth (.inl (by decide))
  have blanks (gap : Gap) := beforeLastComma_append (gap.lacks (by decide) : Text.Lacks gap.text _)
  have bounds (bound : BoundText) :=
    beforeLastComma_append (bound.lacks (by decide) : Text.Lacks bound.text _)
  -- What is in the brackets is read one level deeper, and what follows the type at the old depth.
  induction type generalizing depth rest with
  | named name => exact beforeLastComma_append (name.lacks (by decide)) depth rest
  | string bound =>
    have word : Text.Lacks TypeText.stringWord ['<', '>', ','] := by decide
    cases bound with
    | none => exact beforeLastComma_append word depth rest
    | some bound =>
      simp [TypeText.text, BoundText.bracketed, beforeLastComma_append word, bounds, opened, closed,
        Function.comp_def]
  | sequence before element after bound ih =>
    have word : Text.Lacks TypeText.sequenceWord ['<', '>', ','] := by decide
    cases bound with
    | none =>
      simp [TypeText.text, beforeLastComma_append word, blanks, ih, opened, closed,
        Function.comp_def]
    | some bound =>
      -- The comma of a bound is inside the brackets of its sequence.
      have parted := @beforeLastComma_cons ',' (depth + 1) (.inr (Nat.succ_ne_zero depth))
      simp [TypeText.text, BoundText.listed, beforeLastComma_append word, blanks, bounds, ih,
        opened, parted, closed, Function.comp_def]

/-- Of the arguments of a sequence the element is left. -/
theorem stripBound_arguments (before : Gap) (element : TypeText) (after : Gap)
    (bound : Option BoundText) :
    stripBound (before.text ++ (element.text ++ (after.text ++
      bound.elim [] BoundText.listed))) = element.text := by
  -- The gaps around the element are trimmed away, with or without a bound behind them.
  have trims : Text.trim (before.text ++ (element.text ++ after.text)) = element.text := by
    rw [Text.trim_append_left before.blank, Text.trim_append_right after.blank,
      Text.trim_of_isTrimmed element.trimmed]
  -- Without a bound no comma is found and all is trimmed; with one only what is before it.
  cases bound with
  | none =>
    have none : beforeLastComma 0 [] = none := rfl
    have found : beforeLastComma 0 (before.text ++ (element.text ++ after.text)) = Option.none := by
      have whole := beforeLastComma_append (after.lacks (by decide)) 0 []
      rw [List.append_nil, none] at whole
      rw [beforeLastComma_append (before.lacks (by decide)), beforeLastComma_type, whole]
      rfl
    simp [stripBound, found, trims]
  | some bound =>
    have found : beforeLastComma 0 (before.text ++ (element.text ++ (after.text ++ bound.listed))) =
        some (before.text ++ (element.text ++ after.text)) := by
      have last : beforeLastComma 0 bound.listed = some [] := by
        have absent := beforeLastComma_append (bound.lacks (by decide)) 0 []
        rw [List.append_nil] at absent
        simp [BoundText.listed, beforeLastComma, absent]
      simp [beforeLastComma_append (before.lacks (by decide)), beforeLastComma_type,
        beforeLastComma_append (after.lacks (by decide)), last]
    simp [stripBound, found, trims]

/-- The arguments of a sequence are all between its brackets. -/
theorem sequenceArguments?_sequence (arguments : Text) :
    sequenceArguments? (TypeText.sequenceWord ++ '<' :: (arguments ++ ['>'])) = some arguments := by
  have opened : Text.stripPrefix? "sequence<".toList
      (TypeText.sequenceWord ++ '<' :: (arguments ++ ['>'])) = some (arguments ++ ['>']) := rfl
  have closed : Text.stripSuffix? ['>'] (arguments ++ ['>']) = some arguments := by
    simp [Text.stripSuffix?, List.isSuffixOf?]
  simp only [sequenceArguments?, opened]
  exact closed

/-- What does not start as a sequence does has no arguments. -/
theorem sequenceArguments?_eq_none {type : Text} (other : ¬ "sequence<".toList <+: type) :
    sequenceArguments? type = none := by
  -- The prefix would have to be there if there were arguments.
  have unopened : Text.stripPrefix? "sequence<".toList type = none :=
    Option.eq_none_iff_forall_ne_some.mpr fun arguments found =>
      other ⟨arguments, List.isPrefixOf?_eq_some_iff_append_eq.mp found⟩
  simp only [sequenceArguments?, unopened]
  rfl

/-- Nothing is opened where there are no arguments. -/
theorem innermostFrom_of_none {type : Text} (closed : sequenceArguments? type = none) (fuel : Nat) :
    innermostFrom fuel type = type := by
  cases fuel <;> simp [innermostFrom, closed]

/-- Opening one sequence after the other ends at the innermost type. -/
theorem innermostFrom_type (type : TypeText) (fuel : Nat) (enough : type.text.length ≤ fuel) :
    innermostFrom fuel type.text = type.innermost.text := by
  -- A sequence takes one step of fuel; the other two kinds stop at once.
  induction type generalizing fuel with
  | named name =>
    have other : ¬ "sequence<".toList <+: name.text := fun starts =>
      name.not_mem (c := '<') (by decide) (starts.subset (by decide))
    exact innermostFrom_of_none (sequenceArguments?_eq_none other) fuel
  | string bound =>
    have unopened : sequenceArguments? (TypeText.string bound).text = none := rfl
    exact innermostFrom_of_none unopened fuel
  | sequence before element after bound ih =>
    have shape : (TypeText.sequence before element after bound).text =
        TypeText.sequenceWord ++ '<' :: ((before.text ++ (element.text ++ (after.text ++
          bound.elim [] BoundText.listed))) ++ ['>']) := by
      simp [TypeText.text]
    have found := sequenceArguments?_sequence (before.text ++ (element.text ++ (after.text ++
      bound.elim [] BoundText.listed)))
    rw [← shape] at found
    -- The element is shorter than what is around it, so the fuel lasts.
    obtain ⟨less, rfl⟩ : ∃ less, fuel = less + 1 := Nat.exists_eq_add_one.mpr (by
      rw [shape, List.length_append, List.length_cons] at enough
      omega)
    have shorter : element.text.length ≤ less := by
      simp only [TypeText.text, List.length_append, List.length_cons] at enough
      omega
    rw [innermostFrom, found]
    exact (congrArg _ (stripBound_arguments before element after bound)).trans (ih less shorter)

/-- The innermost type is found in every type. -/
theorem innermost_type (type : TypeText) : innermost type.text = type.innermost.text := by
  rw [innermost, Text.trim_of_isTrimmed type.trimmed, innermostFrom_type type _ le_rfl]

end Member
end IdlScout
