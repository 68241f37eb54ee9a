import IdlScout.Detection.Type
import IdlScout.Proofs.Idl.Reading

/-! A declaration is read back from every way of writing it down. -/

namespace IdlScout

/-- Blanks between two parts, or none. -/
structure Gap where
  text : Text
  blank : IsBlankText text

/-- Blanks between two parts that would else run together. -/
structure Break extends Gap where
  nonempty : text ≠ []

/-- An annotation: its name, and the text between brackets if it has any. -/
structure AnnotationText where
  name : Text
  arguments : Option Text
  named : name ≠ []
  visible : IsVisibleText name
  solid : Text.Lacks name ['@', '<', '>']
  plain : ∀ text ∈ arguments, Text.Lacks text ['@', '\n', '<', '>']
  keywordFree : Declaration.KeywordFree name ∧ ∀ text ∈ arguments, Declaration.KeywordFree text

/-- An annotation without the sign before it. -/
def AnnotationText.fragment (written : AnnotationText) : Text :=
  written.name ++ written.arguments.elim [] fun text => '(' :: text ++ [')']

/-- A sign that is in neither part of an annotation, and no bracket, is not in its fragment. -/
theorem AnnotationText.not_mem_fragment (written : AnnotationText) {c : Char}
    (listed : c ∈ ['@', '\n', '<', '>']) : c ∉ written.fragment := by
  intro member
  rcases List.mem_append.mp member with inName | inBrackets
  · -- A line feed is a blank, and a name has none.
    have visible := written.visible c inName
    have unlisted := written.solid c inName
    simp only [List.mem_cons, List.not_mem_nil, or_false] at listed unlisted
    rcases listed with rfl | rfl | rfl | rfl
    · simp at unlisted
    · exact absurd visible (by decide)
    · simp at unlisted
    · simp at unlisted
  · -- Without brackets there is nothing behind the name.
    cases present : written.arguments with
    | none => simp [present] at inBrackets
    | some text =>
      have other : c ≠ '(' ∧ c ≠ ')' := by
        constructor <;> (rintro rfl; simp at listed)
      have inText : c ∈ text := by simpa [present, other] using inBrackets
      exact written.plain text present c inText listed

/-- A fragment has no blank at its ends, and is not empty. -/
theorem AnnotationText.fragment_trimmed (written : AnnotationText) :
    IsTrimmed written.fragment ∧ written.fragment ≠ [] := by
  have nonempty : written.fragment ≠ [] := by
    simp [fragment, written.named]
  refine ⟨⟨fun c first => ?_, fun c last => ?_⟩, nonempty⟩
  · -- The first character is that of the name.
    rw [fragment, List.head?_append_of_ne_nil _ written.named] at first
    exact written.visible c (List.mem_of_mem_head? first)
  · -- The last character is the closing bracket, or that of the name.
    cases present : written.arguments with
    | none =>
      simp only [fragment, present, Option.elim_none, List.append_nil] at last
      exact written.visible c (List.mem_of_mem_getLast? last)
    | some text =>
      have shape : written.fragment = (written.name ++ '(' :: text) ++ [')'] := by
        simp [fragment, present]
      rw [shape, List.getLast?_concat] at last
      obtain rfl : ')' = c := by simpa using last
      decide

/-- No keyword occurs in a fragment. -/
theorem AnnotationText.fragment_keywordFree (written : AnnotationText) :
    Declaration.KeywordFree written.fragment := by
  cases present : written.arguments with
  | none => simpa [fragment, present] using written.keywordFree.1
  | some text =>
    -- Brackets are in no keyword, so it would be in one of the parts.
    simp only [fragment, present, Option.elim_some]
    have inside := (written.keywordFree.2 text present).append_cons (c := ')') (by decide) .nil
    exact written.keywordFree.1.append_cons (by decide) inside

/-- A text without the bounds that stand for none, and without the blanks around it. -/
def withoutBounds (text : Text) : Text :=
  Text.trim (Text.replace ",2147483647>".toList ['>'] (Text.replace "<2147483647>".toList [] text))

/-- A member as it is written. -/
structure MemberText where
  text : Text
  plain : Text.Lacks text [';', '\x7b', '\x7d', '\n']
  nonblank : withoutBounds text ≠ []

/-- A member as it is kept. -/
def MemberText.kept (member : MemberText) : Text :=
  withoutBounds member.text

/-- The clause that names a base, which may start with a separator. -/
structure BaseClause where
  before : Gap
  after : Break
  absolute : Bool
  modules : List Text
  name : Text
  identifiers : ∀ segment ∈ modules ++ [name], IsIdentifier segment

/-- The name of the base. -/
def BaseClause.base (clause : BaseClause) : Text :=
  (if clause.absolute then ScopedName.separator else []) ++
    ScopedName.ofSegments (clause.modules ++ [clause.name])

/-- The clause as it is written behind the declared name. -/
def BaseClause.text (clause : BaseClause) : Text :=
  clause.before.text ++ ':' :: (clause.after.text ++ clause.base)

/-- The name of the base is made of word characters and colons. -/
theorem BaseClause.of_mem_base (clause : BaseClause) {c : Char} (member : c ∈ clause.base) :
    c = ':' ∨ isWord c = true := by
  -- Two colons may lead the name; the rest of it is segments.
  rcases List.mem_append.mp member with inSeparator | inName
  · left
    cases absolute : clause.absolute <;> simp_all [ScopedName.separator]
  · exact ScopedName.isWord_of_mem_ofSegments clause.identifiers inName

/-- A clause ends in the name of the base, and so in no blank. -/
theorem BaseClause.last_visible (clause : BaseClause) :
    ∀ c ∈ clause.text.getLast?, isBlank c = false := by
  intro c last
  have shape : clause.text = (clause.before.text ++ ':' :: clause.after.text ++
      if clause.absolute then ScopedName.separator else []) ++
      ScopedName.ofSegments (clause.modules ++ [clause.name]) := by
    simp [text, base]
  -- The name is never empty, so it decides the last character.
  rw [shape, List.getLast?_append_of_ne_nil _
    (ScopedName.ofSegments_ne_nil clause.identifiers)] at last
  exact (ScopedName.visible_ofSegments clause.identifiers).isTrimmed.2 c last

/-- A clause holds at least a colon. -/
theorem BaseClause.text_ne_nil (clause : BaseClause) : clause.text ≠ [] := by
  simp [text]

/-- The blanks before the colon of a clause are before a lone one. -/
theorem BaseClause.beforeLoneColon_text (clause : BaseClause) :
    Declaration.beforeLoneColon clause.text = some clause.before.text := by
  obtain ⟨c, rest, split⟩ := List.exists_cons_of_ne_nil clause.after.nonempty
  have blank : isBlank c = true := clause.after.blank c (by simp [split])
  have apart : ':' ∉ clause.before.text := clause.before.blank.not_mem (by decide)
  -- A blank follows the colon, so it is no half of a separator.
  have lone :
      Declaration.beforeLoneColon (':' :: (clause.after.text ++ clause.base)) = some [] := by
    have other : c ≠ ':' := by
      rintro rfl
      exact absurd blank (by decide)
    rw [split, List.cons_append, Declaration.beforeLoneColon.eq_3 _ _ (by simp [other]), if_pos rfl]
  rw [text, Declaration.beforeLoneColon_append apart, lone, Option.map_some, List.append_nil]

/-- Members are what is read from between the braces, each on its own: no bound reaches over a
semicolon, and each semicolon ends one member. -/
theorem Declaration.fragments_members {α : Type} (written : α → Text) (lead : Gap)
    (members : List (α × Gap × Gap))
    (solid : ∀ entry ∈ members, ';' ∉ written entry.1)
    (nonblank : ∀ entry ∈ members,
      Text.trim (onOneLine (dropUnbounded (written entry.1))) ≠ []) :
    fragments ';' (dropUnbounded (lead.text ++ members.flatMap fun (member, before, after) =>
        written member ++ before.text ++ ';' :: after.text)) =
      members.map fun (member, _) => Text.trim (onOneLine (dropUnbounded (written member))) := by
  rw [dropUnbounded_blank_append lead.blank, fragments_blank_append (by decide) lead.blank]
  -- By induction on the members: the first one is a fragment of its own, up to its semicolon.
  induction members with
  | nil => rfl
  | cons entry rest ih =>
    obtain ⟨member, before, after⟩ := entry
    rw [List.forall_mem_cons] at solid nonblank
    have absent : ';' ∉ dropUnbounded (written member) := fun found =>
      solid.1 (mem_of_mem_dropUnbounded found (by decide))
    have one : fragments ';' (dropUnbounded (written member) ++ before.text) =
        [Text.trim (onOneLine (dropUnbounded (written member)))] :=
      -- The blanks around the member's semicolon belong to no fragment.
      fragments_eq_singleton (by decide) before.blank absent nonblank.1
    simp only [List.flatMap_cons, List.map_cons, List.append_assoc, List.cons_append] at ih ⊢
    rw [← List.append_assoc, dropUnbounded_append_cons (by decide),
      dropUnbounded_append_blank before.blank, dropUnbounded_blank_append after.blank,
      fragments_append_mark (by decide), one, fragments_blank_append (by decide) after.blank,
      ih solid.2 nonblank.2]
    rfl

/-- A declaration with all that is written around its parts. -/
structure Spelling where
  lead : Gap
  annotations : List (AnnotationText × Break)
  keyword : Text
  listed : keyword ∈ Declaration.keywords
  afterKeyword : Break
  modules : List Text
  name : Text
  identifiers : ∀ segment ∈ modules ++ [name], IsIdentifier segment
  base : Option BaseClause
  beforeBrace : Gap
  afterBrace : Gap
  /-- Members, each with the blanks before and after its semicolon. -/
  members : List (MemberText × Gap × Gap)
  /-- What stands after the declaration. -/
  rest : Text

namespace Spelling

/-- The fully-qualified name. -/
def fullName (spelling : Spelling) : Text :=
  ScopedName.ofSegments (spelling.modules ++ [spelling.name])

/-- What is written before the keyword. -/
def leading (spelling : Spelling) : Text :=
  spelling.lead.text ++
    spelling.annotations.flatMap fun (written, gap) => '@' :: written.fragment ++ gap.text

/-- What is written between the keyword and the opening brace. -/
def head (spelling : Spelling) : Text :=
  spelling.fullName ++ spelling.base.elim [] BaseClause.text ++ spelling.beforeBrace.text

/-- What is written between the braces. -/
def inside (spelling : Spelling) : Text :=
  spelling.afterBrace.text ++ spelling.members.flatMap fun (member, before, after) =>
    member.text ++ before.text ++ ';' :: after.text

/-- The whole text. -/
def text (spelling : Spelling) : Text :=
  spelling.leading ++ spelling.keyword ++ spelling.afterKeyword.text ++ spelling.head ++
    '\x7b' :: spelling.inside ++ "\x7d;".toList ++ spelling.rest

/-- The text with something else between the braces. -/
def around (spelling : Spelling) (inside : Text) : Text :=
  spelling.leading ++ spelling.keyword ++ spelling.afterKeyword.text ++ spelling.head ++
    '\x7b' :: inside ++ "\x7d;".toList ++ spelling.rest

/-- The text before the keyword ends in a blank, if it is not empty. -/
theorem leading_ends (spelling : Spelling) : Declaration.EndsInBlank spelling.leading := by
  unfold leading
  -- Each annotation is closed by a gap, and so is the text before the first one.
  refine (Declaration.EndsInBlank.of_blank spelling.lead.blank).append ?_
  induction spelling.annotations with
  | nil => simp [Declaration.EndsInBlank]
  | cons pair rest ih =>
    rw [List.flatMap_cons]
    exact (Declaration.EndsInBlank.append_blank pair.2.nonempty pair.2.blank _).append ih

/-- No keyword occurs in the text before the keyword. -/
theorem leading_keywordFree (spelling : Spelling) :
    Declaration.KeywordFree spelling.leading := by
  unfold leading
  refine Declaration.KeywordFree.blank_append ?_ spelling.lead.blank
  induction spelling.annotations with
  | nil => exact .nil
  | cons pair rest ih =>
    obtain ⟨written, gap⟩ := pair
    -- The blanks after a fragment keep it apart from what follows.
    obtain ⟨c, more, split⟩ := List.exists_cons_of_ne_nil gap.nonempty
    obtain ⟨first, others⟩ := isBlankText_cons.mp (split ▸ gap.blank)
    have later := Declaration.KeywordFree.blank_append ih others
    have separated := written.fragment_keywordFree.append_cons (isWord_of_isBlank first) later
    rw [List.flatMap_cons, List.append_assoc, split]
    exact Declaration.KeywordFree.nil.append_cons (by decide) separated

/-- The annotations are what is read from the text before the keyword. -/
theorem fragments_leading (spelling : Spelling) :
    Declaration.fragments '@' spelling.leading =
      spelling.annotations.map fun (written, _) => written.fragment := by
  -- Each sign ends the fragment before it, so the text before the first one is left open.
  have follow : ∀ (annotations : List (AnnotationText × Break)) (before : Text),
      Declaration.fragments '@' (before ++
          annotations.flatMap fun (written, gap) => '@' :: written.fragment ++ gap.text) =
        Declaration.fragments '@' before ++
          annotations.map fun (written, _) => written.fragment := by
    intro annotations
    induction annotations with
    | nil => simp
    | cons pair rest ih =>
      intro before
      obtain ⟨written, gap⟩ := pair
      obtain ⟨trimmed, nonempty⟩ := written.fragment_trimmed
      have same := Text.trim_of_isTrimmed trimmed
      have one : Declaration.fragments '@' (written.fragment ++ gap.text) =
          [Text.trim written.fragment] :=
        Declaration.fragments_of_not_mem (by decide) gap.blank
          (written.not_mem_fragment (by simp)) (written.not_mem_fragment (by simp))
          (by rwa [same])
      simp only [List.flatMap_cons, List.map_cons, List.cons_append] at ih ⊢
      rw [Declaration.fragments_append_mark (by decide), ih, one, same]
      rfl
  rw [leading, follow, Declaration.fragments_of_blank (by decide) spelling.lead.blank,
    List.nil_append]

/-- No bound is in the text before the keyword. -/
theorem not_mem_leading (spelling : Spelling) : '>' ∉ spelling.leading := by
  have apart : ∀ {gap : Text}, IsBlankText gap → '>' ∉ gap := fun blank =>
    blank.not_mem (by decide)
  -- Gaps are blank and fragments hold no bracket that closes.
  simp only [leading, List.mem_append, List.mem_flatMap, not_or, not_exists, not_and]
  refine ⟨apart spelling.lead.blank, fun (written, gap) _ => ⟨?_, apart gap.blank⟩⟩
  simpa using written.not_mem_fragment (c := '>') (by simp)

/-- What is written between the keyword and the opening brace is blanks, colons and words. -/
theorem of_mem_head (spelling : Spelling) {c : Char} (member : c ∈ spelling.head) :
    isBlank c = true ∨ c = ':' ∨ isWord c = true := by
  -- A clause brings blanks, its colon and the words of the base.
  rcases List.mem_append.mp member with declared | inGap
  · rcases List.mem_append.mp declared with inName | inClause
    · exact .inr (ScopedName.isWord_of_mem_ofSegments spelling.identifiers inName)
    · cases present : spelling.base with
      | none => simp [present] at inClause
      | some clause =>
        have inClause : c ∈ clause.before.text ∨ c = ':' ∨ c ∈ clause.after.text ∨
            c ∈ clause.base := by
          simpa [present, BaseClause.text] using inClause
        rcases inClause with inBefore | colon | inAfter | inBase
        · exact .inl (clause.before.blank c inBefore)
        · exact .inr (.inl colon)
        · exact .inl (clause.after.blank c inAfter)
        · exact .inr (clause.of_mem_base inBase)
  · exact .inl (spelling.beforeBrace.blank c inGap)

/-- The name has no blanks at its ends, and is not empty. -/
theorem fullName_trimmed (spelling : Spelling) :
    IsTrimmed spelling.fullName ∧ spelling.fullName ≠ [] :=
  ⟨(ScopedName.visible_ofSegments spelling.identifiers).isTrimmed,
    ScopedName.ofSegments_ne_nil spelling.identifiers⟩

/-- The name starts right behind the blanks after the keyword. -/
theorem head_starts (spelling : Spelling) :
    ∀ c ∈ (spelling.head ++ ['\x7b']).head?, isBlank c = false := by
  intro c first
  -- The name is first, and it is trimmed and not empty.
  obtain ⟨trimmed, nonempty⟩ := spelling.fullName_trimmed
  rw [head, List.append_assoc, List.append_assoc, List.head?_append_of_ne_nil _ nonempty] at first
  exact trimmed.1 c first

/-- The declared name is left when the base clause is cut off. -/
theorem stripBase_head (spelling : Spelling) :
    Declaration.stripBase (Text.trim spelling.head) = spelling.fullName := by
  -- No segment holds a colon, so the first lone colon is that of the clause.
  have plain : ∀ segment ∈ spelling.modules ++ [spelling.name], ':' ∉ segment :=
    fun segment member => (spelling.identifiers segment member).not_mem (by decide)
  obtain ⟨trimmed, nonempty⟩ := spelling.fullName_trimmed
  rw [head, Text.trim_append_right spelling.beforeBrace.blank]
  cases spelling.base with
  | none =>
    simp only [Option.elim_none, List.append_nil]
    rw [Text.trim_of_isTrimmed trimmed, fullName, Declaration.stripBase_ofSegments (by simp) plain]
  | some clause =>
    -- With a clause the header ends in the name of the base.
    have whole : IsTrimmed (spelling.fullName ++ clause.text) := by
      refine ⟨fun c first => ?_, fun c last => ?_⟩
      · rw [List.head?_append_of_ne_nil _ nonempty] at first
        exact trimmed.1 c first
      · exact clause.last_visible c (by simpa [clause.text_ne_nil] using last)
    have found := Declaration.beforeLoneColon_ofSegments (by simp) plain clause.text
    rw [clause.beforeLoneColon_text] at found
    simp only [Option.elim_some]
    rw [Text.trim_of_isTrimmed whole, Declaration.stripBase, fullName, found]
    exact (Text.trimEnd_append clause.before.blank _).trans (Text.trimEnd_of_last trimmed.2)

/-- No bound goes on into a spelling. -/
theorem head_around (spelling : Spelling) (inside : Text) :
    ∀ c ∈ (spelling.around inside).head?, c ∉ Declaration.boundCharacters := by
  intro c first
  -- What stands first is a blank, the sign of an annotation or the keyword.
  cases lead : spelling.lead.text with
  | cons d rest =>
    obtain rfl : d = c := by simpa [around, leading, lead] using first
    exact Declaration.blank_not_bound (spelling.lead.blank d (by simp [lead]))
  | nil =>
    cases present : spelling.annotations with
    | cons written rest =>
      obtain rfl : '@' = c := by simpa [around, leading, lead, present] using first
      decide
    | nil =>
      have lacks : ∀ keyword ∈ Declaration.keywords,
          Text.Lacks keyword Declaration.boundCharacters := by decide
      have nonempty := (Declaration.isIdentifier_of_mem_keywords spelling.listed).nonempty
      refine lacks _ spelling.listed c (List.mem_of_mem_head? ?_)
      simpa [around, leading, lead, present, List.head?_append_of_ne_nil _ nonempty] using first

/-- A text is read as the spelling behind it if no keyword stands in the text, whatever is between
the braces. -/
theorem read_behind (spelling : Spelling) {front inside : Text}
    (keywordless : Declaration.Keywordless false (Declaration.dropUnbounded front))
    (ends : Declaration.EndsOutsideWord (Declaration.dropUnbounded front))
    (unclosed : '\x7d' ∉ inside) :
    Declaration.read (front ++ spelling.around inside) = .ok {
      annotations :=
        Declaration.fragments '@' (Declaration.dropUnbounded front ++ spelling.leading)
      modules := spelling.modules
      name := spelling.name
      members := Declaration.fragments ';' (Declaration.dropUnbounded inside) } := by
  -- A bound ends with a bracket, which no part before the brace has.
  have unbounded : '>' ∉ spelling.leading ++ spelling.keyword ++ spelling.afterKeyword.text ++
      spelling.head := by
    simp only [List.mem_append, not_or]
    refine ⟨⟨⟨spelling.not_mem_leading, ?_⟩, fun member => ?_⟩, fun member => ?_⟩
    · exact (Declaration.isIdentifier_of_mem_keywords spelling.listed).not_mem (by decide)
    · exact spelling.afterKeyword.blank.not_mem (by decide) member
    · exact absurd (spelling.of_mem_head member) (by decide)
  have shape : spelling.around inside =
      (spelling.leading ++ spelling.keyword ++ spelling.afterKeyword.text ++ spelling.head) ++
        '\x7b' :: (inside ++ '\x7d' :: ([] ++ ';' :: spelling.rest)) := by
    simp [around]
  -- No bound is before the opening brace, and none reaches over a brace or the last semicolon.
  have parts : Declaration.dropUnbounded (front ++ spelling.around inside) =
      (Declaration.dropUnbounded front ++ spelling.leading) ++ (spelling.keyword ++
        (spelling.afterKeyword.text ++ (spelling.head ++ '\x7b' ::
          (Declaration.dropUnbounded inside ++ '\x7d' :: ';' ::
            Declaration.dropUnbounded spelling.rest)))) := by
    rw [Declaration.dropUnbounded_append (spelling.head_around inside), shape,
      Declaration.dropUnbounded_append_cons (by decide),
      Declaration.dropUnbounded_append_cons (by decide),
      Declaration.dropUnbounded_append_cons (by decide),
      Declaration.dropUnbounded_of_not_mem unbounded, Declaration.dropUnbounded_nil]
    simp
  have unopened : '\x7b' ∉ spelling.head := fun member =>
    absurd (spelling.of_mem_head member) (by decide)
  exact Declaration.read_of_parts parts
    (keywordless.append ends (spelling.leading_keywordFree.keywordless false))
    (ends.append spelling.leading_ends.outsideWord) spelling.listed spelling.afterKeyword.nonempty
    spelling.afterKeyword.blank spelling.head_starts unopened spelling.stripBase_head
    spelling.identifiers
    -- What replaces a bound is no brace.
    fun member => unclosed (Declaration.mem_of_mem_dropUnbounded member (by decide))

/-- No closing brace is among the members. -/
theorem unclosed (spelling : Spelling) : '\x7d' ∉ spelling.inside := by
  have apart : ∀ {gap : Text}, IsBlankText gap → '\x7d' ∉ gap := fun blank =>
    blank.not_mem (by decide)
  simp only [inside, List.mem_append, List.mem_flatMap, not_or, not_exists, not_and]
  refine ⟨apart spelling.afterBrace.blank, fun (member, before, after) _ => ⟨⟨?_, ?_⟩, ?_⟩⟩
  · exact fun found => member.plain _ found (by simp)
  · exact apart before.blank
  · simpa using apart after.blank

/-- The members are what is read from between the braces. -/
theorem fragments_inside (spelling : Spelling) :
    Declaration.fragments ';' (Declaration.dropUnbounded spelling.inside) =
      spelling.members.map fun (member, _) => member.kept := by
  -- A member on one line is not changed when it is put on one.
  have same (member : MemberText) :
      Text.trim (Declaration.onOneLine (Declaration.dropUnbounded member.text)) = member.kept := by
    have single : '\n' ∉ Declaration.dropUnbounded member.text := fun found =>
      member.plain _ (Declaration.mem_of_mem_dropUnbounded found (by decide)) (by simp)
    rw [Declaration.onOneLine_of_not_mem single, Declaration.dropUnbounded_eq, MemberText.kept,
      withoutBounds]
  rw [inside, Declaration.fragments_members MemberText.text spelling.afterBrace]
  · exact List.map_congr_left fun entry _ => same entry.1
  · exact fun entry _ found => entry.1.plain _ found (by simp)
  · exact fun entry _ => same entry.1 ▸ entry.1.nonblank

/-- A spelling is read as the parts it was made of. -/
theorem read_text (spelling : Spelling) :
    Declaration.read spelling.text = .ok {
      annotations := spelling.annotations.map fun (written, _) => written.fragment
      modules := spelling.modules
      name := spelling.name
      members := spelling.members.map fun (member, _) => member.kept } := by
  have alone : Declaration.Keywordless false (Declaration.dropUnbounded []) := .of_blank (by decide)
  have found := spelling.read_behind alone (by decide) spelling.unclosed
  rw [Declaration.dropUnbounded_nil, List.nil_append, List.nil_append, spelling.fragments_leading,
    spelling.fragments_inside] at found
  exact found

end Spelling

/-- A text that is read as a declaration of the reported name is understood. -/
theorem DetectedType.detect_of_read {fullName text : Text} {declaration : Declaration}
    (found : Declaration.read text = .ok declaration) (same : declaration.fullName = fullName) :
    detect fullName text = .ok ⟨fullName, text, some declaration⟩ := by
  rw [detect, found]
  exact if_pos same

/-- A type that was understood was read. -/
theorem DetectedType.read_of_detect {fullName text : Text} {type : DetectedType}
    (found : detect fullName text = .ok type) (parsed : type.isParsed = true) :
    ∃ declaration, Declaration.read text = .ok declaration ∧
      type.declaration = some declaration := by
  cases read : Declaration.read text with
  | error fault =>
    obtain rfl : (⟨fullName, text, none⟩ : DetectedType) = type := by
      simpa [detect, read] using found
    cases parsed
  | ok declaration =>
    rw [detect, read] at found
    dsimp only at found
    split at found
    · obtain rfl := Except.ok.inj found
      exact ⟨declaration, rfl, rfl⟩
    · cases found

/-- A type that was understood has the name that its text declares. -/
theorem DetectedType.fullName_of_detect {fullName text : Text} {type : DetectedType}
    {declaration : Declaration} (found : detect fullName text = .ok type)
    (present : type.declaration = some declaration) : declaration.fullName = type.fullName := by
  unfold detect at found
  split at found
  · obtain rfl := Except.ok.inj found
    cases present
  · split at found
    · rename_i same
      obtain rfl := Except.ok.inj found
      obtain rfl := Option.some.inj present
      exact same
    · cases found

/-- Whatever way a declaration is written down, the type detected has its parts, and keeps the
text. -/
theorem DetectedType.detect_spelling (spelling : Spelling) :
    ∃ type, detect spelling.fullName spelling.text = .ok type ∧ type.isParsed = true ∧
      type.name = spelling.name ∧ type.modules = spelling.modules ∧
      type.annotations = spelling.annotations.map (fun (written, _) => written.fragment) ∧
      type.members = spelling.members.map (fun (member, _) => member.kept) ∧
      type.idl = spelling.text := by
  -- The name declared is the name reported, so the type is not refused.
  simp [detect, spelling.read_text, Declaration.fullName, Spelling.fullName, isParsed, name,
    modules, annotations, members]

/-- An annotation, a base clause and a bound that stands for none, each written down once. -/
theorem DetectedType.detect_spelling_with_base :
    ∃ type, detect "A::B".toList
        "@key(1) struct A::B : C \x7b sequence<long,2147483647> x; \x7d;".toList = .ok type ∧
      type.annotations = ["key(1)".toList] ∧ type.members = ["sequence<long> x".toList] := by
  obtain ⟨type, found, -, -, -, annotations, members, -⟩ := detect_spelling {
    lead := ⟨[], by decide⟩
    annotations := [(⟨"key".toList, some ['1'], by decide, by decide, by decide, by decide,
      by decide⟩, ⟨⟨[' '], by decide⟩, by decide⟩)]
    keyword := "struct".toList
    listed := by decide
    afterKeyword := ⟨⟨[' '], by decide⟩, by decide⟩
    modules := [['A']]
    name := ['B']
    identifiers := by decide
    base := some ⟨⟨[' '], by decide⟩, ⟨⟨[' '], by decide⟩, by decide⟩, false, [], ['C'], by decide⟩
    beforeBrace := ⟨[' '], by decide⟩
    afterBrace := ⟨[' '], by decide⟩
    members := [(⟨"sequence<long,2147483647> x".toList, by decide, by decide⟩,
      ⟨[], by decide⟩, ⟨[' '], by decide⟩)]
    rest := [] }
  exact ⟨type, found, annotations, members⟩

end IdlScout
