import IdlScout.Proofs.Idl.Name

/-! The first keyword of a declaration is found behind any text that no keyword stands in. -/

namespace IdlScout
namespace Declaration

/-- Keywords are identifiers. -/
theorem isIdentifier_of_mem_keywords {keyword : Text} (listed : keyword ∈ keywords) :
    IsIdentifier keyword := by
  have checked : ∀ keyword ∈ keywords, IsIdentifier keyword := by decide +kernel
  exact checked keyword listed

/-- No keyword occurs in a text, not even inside a word. -/
def KeywordFree (text : Text) : Prop :=
  ∀ keyword ∈ keywords, ¬ keyword <:+: text

instance (text : Text) : Decidable (KeywordFree text) :=
  inferInstanceAs (Decidable (∀ keyword ∈ keywords, ¬ keyword <:+: text))

/-- An empty text holds no keyword. -/
theorem KeywordFree.nil : KeywordFree [] := fun _ listed inside =>
  (isIdentifier_of_mem_keywords listed).nonempty (List.infix_nil.mp inside)

/-- No keyword reaches over a character that belongs to no word. -/
theorem KeywordFree.append_cons {before after : Text} {c : Char} (first : KeywordFree before)
    (other : isWord c = false) (second : KeywordFree after) :
    KeywordFree (before ++ c :: after) := by
  intro keyword listed inside
  have outside := (isIdentifier_of_mem_keywords listed).not_mem other
  -- A keyword holds no such character, so it is on one side of it.
  rcases Text.infix_of_infix_append_cons outside inside with inBefore | inAfter
  · exact first keyword listed inBefore
  · exact second keyword listed inAfter

/-- Blanks before a text hold no keyword. -/
theorem KeywordFree.blank_append {gap text : Text} (free : KeywordFree text)
    (blank : IsBlankText gap) : KeywordFree (gap ++ text) := by
  -- By induction on the blanks, none of which is in a word.
  induction gap with
  | nil => exact free
  | cons c rest ih =>
    obtain ⟨first, others⟩ := isBlankText_cons.mp blank
    exact KeywordFree.nil.append_cons (isWord_of_isBlank first) (ih others)

/-- No keyword stands in a text as a word of its own with a blank after it; the flag says whether a
word character precedes the text. -/
def Keywordless (afterWord : Bool) (text : Text) : Prop :=
  ∀ before keyword c after, text = before ++ keyword ++ c :: after → keyword ∈ keywords →
    isBlank c = true → before.getLast?.elim afterWord isWord = true

/-- Where no keyword occurs, none stands as a word. -/
theorem KeywordFree.keywordless {text : Text} (free : KeywordFree text) (afterWord : Bool) :
    Keywordless afterWord text :=
  fun before keyword c after split listed _ =>
    absurd ⟨before, c :: after, split.symm⟩ (free keyword listed)

/-- No keyword stands in blanks. -/
theorem Keywordless.of_blank {gap : Text} (blank : IsBlankText gap) : Keywordless false gap := by
  have free := KeywordFree.nil.blank_append blank
  rw [List.append_nil] at free
  exact free.keywordless false

/-- A text whose last character, if it has one, is a blank. -/
def EndsInBlank (text : Text) : Prop :=
  ∀ c ∈ text.getLast?, isBlank c = true

instance (text : Text) : Decidable (EndsInBlank text) :=
  decidable_of_iff (text.getLast?.all isBlank = true) <| by
    cases last : text.getLast? <;> simp [EndsInBlank, last]

/-- Blanks end in a blank. -/
theorem EndsInBlank.of_blank {gap : Text} (blank : IsBlankText gap) : EndsInBlank gap :=
  fun c last => blank c (List.mem_of_mem_getLast? last)

/-- Texts that end in blanks do so one after the other. -/
theorem EndsInBlank.append {before after : Text} (first : EndsInBlank before)
    (second : EndsInBlank after) : EndsInBlank (before ++ after) := by
  intro c last
  rw [List.getLast?_append] at last
  -- An empty second text leaves the end of the first.
  cases ending : after.getLast? with
  | none => exact first c (by simpa [ending] using last)
  | some d => exact second c (by simpa [ending] using last)

/-- Whatever precedes them, blanks end in a blank. -/
theorem EndsInBlank.append_blank {gap : Text} (nonempty : gap ≠ []) (blank : IsBlankText gap)
    (before : Text) : EndsInBlank (before ++ gap) := by
  intro c last
  rw [List.getLast?_append_of_ne_nil _ nonempty] at last
  exact blank c (List.mem_of_mem_getLast? last)

/-- Whatever precedes it, a line feed is a blank at the end. -/
theorem EndsInBlank.append_feed (before : Text) : EndsInBlank (before ++ ['\n']) :=
  .append_blank (by simp) (by decide) before

/-- A text whose last character, if it has one, belongs to no word. -/
def EndsOutsideWord (text : Text) : Prop :=
  ∀ c ∈ text.getLast?, isWord c = false

instance (text : Text) : Decidable (EndsOutsideWord text) :=
  decidable_of_iff (text.getLast?.all (!isWord ·) = true) <| by
    cases last : text.getLast? <;> simp [EndsOutsideWord, last]

/-- A blank at the end belongs to no word. -/
theorem EndsInBlank.outsideWord {text : Text} (ends : EndsInBlank text) : EndsOutsideWord text :=
  fun c last => isWord_of_isBlank (ends c last)

/-- Texts that end outside words do so one after the other. -/
theorem EndsOutsideWord.append {before after : Text} (first : EndsOutsideWord before)
    (second : EndsOutsideWord after) : EndsOutsideWord (before ++ after) := by
  intro c last
  rw [List.getLast?_append] at last
  cases ending : after.getLast? with
  | none => exact first c (by simpa [ending] using last)
  | some d => exact second c (by simpa [ending] using last)

/-- A text that ends outside words does not end in a word. -/
theorem EndsOutsideWord.eq_nil {before part : Text} (ends : EndsOutsideWord (before ++ part))
    (word : IsWordText part) : part = [] := by
  -- The last character of the part would be one of a word.
  cases last : part.getLast? with
  | none => exact List.getLast?_eq_none_iff.mp last
  | some c =>
    have other := ends c (by simp [List.getLast?_append, last])
    simp [word c (List.mem_of_mem_getLast? last)] at other

/-- No keyword reaches over the end of a text that ends outside words. -/
theorem Keywordless.append {afterWord : Bool} {first second : Text}
    (inFirst : Keywordless afterWord first) (ends : EndsOutsideWord first)
    (inSecond : Keywordless false second) :
    Keywordless afterWord (first ++ second) := by
  intro before keyword c after split listed blank
  have identifier := isIdentifier_of_mem_keywords listed
  rcases List.append_eq_append_iff.mp split with ⟨more, whole, rest⟩ | ⟨more, whole, rest⟩
  · rcases List.append_eq_append_iff.mp whole with ⟨part, rfl, last⟩ | ⟨part, rfl, rfl⟩
    · -- The keyword would start in the first text and hold its last character.
      have nothing : part = [] := ends.eq_nil fun d member =>
        identifier.word d (by simp [last, member])
      have same : keyword = more := by simpa [nothing] using last
      have word := inSecond [] keyword c after (by simpa [same] using rest) listed blank
      simp at word
    · have word := inSecond part keyword c after rest listed blank
      cases ending : part.getLast? with
      | none => simp [ending] at word
      | some d => simpa [List.getLast?_append, ending] using word
  · cases more with
    | nil =>
      -- The first text would end in the keyword.
      rw [List.append_nil] at whole
      have nothing := (whole ▸ ends).eq_nil identifier.word
      exact absurd nothing identifier.nonempty
    | cons d others =>
      obtain ⟨rfl, rfl⟩ : c = d ∧ after = others ++ second := by simpa using rest
      exact inFirst before keyword c others whole listed blank

/-- No keyword reaches over a character that is neither a blank nor of a word. -/
theorem keywordless_append_cons_iff {afterWord : Bool} {before after : Text} {c : Char}
    (other : isWord c = false) (visible : isBlank c = false) :
    Keywordless afterWord (before ++ c :: after) ↔
      Keywordless afterWord before ∧ Keywordless false after := by
  refine ⟨fun whole => ⟨fun front keyword d rest split => ?_, fun front keyword d rest split => ?_⟩,
    fun ⟨inBefore, inAfter⟩ front keyword d rest split listed blank => ?_⟩
  · exact whole front keyword d (rest ++ c :: after) (by simp [split])
  · intro listed blank
    have word := whole (before ++ c :: front) keyword d rest (by simp [split]) listed blank
    -- What precedes the keyword is the character before it, or the end of the front.
    cases ending : front.getLast? with
    | none => simp [List.getLast?_append, List.getLast?_cons, ending, other] at word
    | some e => simpa [List.getLast?_append, List.getLast?_cons, ending] using word
  · -- The keyword and the blank behind it are on one side.
    have outside : c ∉ keyword ++ [d] := by
      have apart : c ≠ d := by
        rintro rfl
        simp [blank] at visible
      simpa [apart] using (isIdentifier_of_mem_keywords listed).not_mem other
    have parts : before ++ c :: after = front ++ (keyword ++ [d]) ++ rest := by simp [split]
    rcases Text.of_append_cons_eq outside parts with ⟨gap, same, -⟩ | ⟨gap, same, behind⟩
    · exact inBefore front keyword d gap (by simp [same]) listed blank
    · have word := inAfter gap keyword d rest (by simp [behind]) listed blank
      rw [same]
      cases ending : gap.getLast? with
      | none => simp [ending] at word
      | some e => simpa [List.getLast?_append, List.getLast?_cons, ending] using word

/-- No keyword stands in a text without blanks that does not end in one, with a blank after it. -/
theorem Keywordless.of_visible {text : Text} (visible : IsVisibleText text)
    (apart : ∀ before, ∀ keyword ∈ keywords, text = before ++ keyword →
      before.getLast?.elim false isWord = true) (c : Char) :
    Keywordless false (text ++ [c]) := by
  intro before keyword d after split listed blank
  rcases List.append_eq_append_iff.mp split with ⟨more, whole, rest⟩ | ⟨more, whole, rest⟩
  · -- The blank after the keyword is the one after the text.
    have nothing : more = [] := by
      cases more with
      | nil => rfl
      | cons e others => simp at rest
    exact apart before keyword listed (by simpa [nothing] using whole.symm)
  · -- The blank behind the keyword cannot be in the text, which has none.
    cases more with
    | nil => exact apart before keyword listed (by simpa using whole)
    | cons e others =>
      obtain ⟨rfl, -⟩ : d = e ∧ after = others ++ [c] := by simpa using rest
      simp [visible d (by simp [whole])] at blank

/-- No keyword stands in an identifier that is none. -/
theorem Keywordless.of_identifier {name : Text} (identifier : IsIdentifier name)
    (unlisted : name ∉ keywords) (c : Char) : Keywordless false (name ++ [c]) := by
  refine .of_visible identifier.visible ?_ c
  intro before keyword listed whole
  -- Something before the keyword makes it the end of the longer name.
  cases ending : before.getLast? with
  | none =>
    obtain rfl : before = [] := List.getLast?_eq_none_iff.mp ending
    have same : name = keyword := whole
    exact absurd listed (same ▸ unlisted)
  | some d =>
    exact identifier.word d (by simp [whole, List.mem_of_mem_getLast? ending])

/-- No keyword stands at the end of a text whose last character belongs to no word. -/
theorem Keywordless.of_last {text : Text} {mark : Char}
    (visible : IsVisibleText (text ++ [mark])) (other : isWord mark = false) (c : Char) :
    Keywordless false (text ++ [mark] ++ [c]) := by
  refine .of_visible visible ?_ c
  intro before keyword listed whole
  have identifier := isIdentifier_of_mem_keywords listed
  obtain ⟨init, last, shape⟩ : ∃ init last, keyword = init ++ [last] :=
    ⟨_, _, (List.dropLast_append_getLast identifier.nonempty).symm⟩
  -- The keyword would end in the mark, which is in no word.
  have same : mark = last := by
    rw [shape, ← List.append_assoc] at whole
    simpa using (List.append_inj' whole rfl).2
  exact absurd (by simp [shape, same]) (identifier.not_mem other)

/-- What follows a keyword was found behind it and the blanks that must stand after it. -/
theorem keyword_of_afterKeyword? {text body : Text} (found : afterKeyword? text = some body) :
    ∃ keyword ∈ keywords, ∃ c rest, isBlank c = true ∧ text = keyword ++ c :: rest ∧
      body = Text.trimStart rest := by
  unfold afterKeyword? at found
  -- The first keyword that fits is taken, if a blank stands behind it.
  obtain ⟨keyword, listed, found⟩ := List.exists_of_findSome?_eq_some found
  split at found
  · rename_i c rest stripped
    rw [Text.stripPrefix?, List.isPrefixOf?_eq_some_iff_append_eq] at stripped
    split at found
    · rename_i blank
      exact ⟨keyword, listed, c, rest, blank, stripped.symm, (Option.some.inj found).symm⟩
    · cases found
  · cases found

/-- In a text that no keyword stands in, and that ends outside words, none starts at the
beginning. -/
theorem afterKeyword?_of_keywordless {init : Text} {last : Char}
    (keywordless : Keywordless false (init ++ [last])) (ends : isWord last = false)
    (tail : Text) : afterKeyword? (init ++ last :: tail) = none := by
  cases hit : afterKeyword? (init ++ last :: tail) with
  | none => rfl
  | some body =>
    obtain ⟨keyword, listed, c, after, blank, whole, -⟩ := keyword_of_afterKeyword? hit
    -- A keyword is a word, so it ends before the last character of the text.
    have outside : last ∉ keyword := (isIdentifier_of_mem_keywords listed).not_mem ends
    have inside : keyword <+: init :=
      Text.prefix_of_prefix_append_cons outside init ⟨c :: after, whole.symm⟩
    obtain ⟨more, rfl⟩ := inside
    rw [List.append_assoc, List.append_cancel_left_eq] at whole
    have word : ∃ rest, more ++ [last] = c :: rest := by
      cases more with
      | nil => exact ⟨[], by simp_all⟩
      | cons d others => exact ⟨others ++ [last], by simp_all⟩
    obtain ⟨rest, split⟩ := word
    have preceded := keywordless [] keyword c rest (by simp [split]) listed blank
    simp at preceded

/-- A text that no keyword stands in, and that ends outside words, is passed as a whole. -/
theorem breakAtKeyword?_append {afterWord : Bool} {leading tail body : Text}
    (keywordless : Keywordless afterWord leading)
    (ends : leading.getLast?.elim afterWord isWord = false)
    (found : afterKeyword? tail = some body) (nonempty : tail ≠ []) :
    breakAtKeyword? afterWord (leading ++ tail) = some (leading, body) := by
  induction leading generalizing afterWord with
  | nil =>
    obtain ⟨c, rest, rfl⟩ := List.exists_cons_of_ne_nil nonempty
    -- At the end of the leading text no word goes on.
    have fresh : afterWord = false := by simpa using ends
    simp [breakAtKeyword?, fresh, found]
  | cons c rest ih =>
    have passed : (if afterWord then none else afterKeyword? (c :: (rest ++ tail))) = none := by
      cases afterWord with
      | true => rfl
      | false =>
        obtain ⟨init, last, shape⟩ : ∃ init last, c :: rest = init ++ [last] :=
          ⟨_, _, (List.dropLast_append_getLast (List.cons_ne_nil c rest)).symm⟩
        have other : isWord last = false := by simpa [shape] using ends
        have passed := afterKeyword?_of_keywordless (shape ▸ keywordless) other tail
        rw [List.append_cons, ← shape] at passed
        exact passed
    -- What precedes the rest is the character just passed.
    have restKeywordless : Keywordless (isWord c) rest := by
      intro before keyword d after split listed blank
      have word := keywordless (c :: before) keyword d after (by simp [split]) listed blank
      rw [List.getLast?_cons] at word
      cases last : before.getLast? <;> simpa [last] using word
    have restEnds : rest.getLast?.elim (isWord c) isWord = false := by
      rw [List.getLast?_cons] at ends
      cases last : rest.getLast? <;> simpa [last] using ends
    rw [List.cons_append, breakAtKeyword?, passed, ih restKeywordless restEnds]
    rfl

/-- A keyword with blanks after it is taken with all of them. -/
theorem afterKeyword?_append {keyword gap body : Text} (listed : keyword ∈ keywords)
    (nonempty : gap ≠ []) (blank : IsBlankText gap)
    (starts : ∀ c ∈ body.head?, isBlank c = false) :
    afterKeyword? (keyword ++ (gap ++ body)) = some body := by
  obtain ⟨c, rest, rfl⟩ := List.exists_cons_of_ne_nil nonempty
  obtain ⟨first, others⟩ := isBlankText_cons.mp blank
  have trimmed : Text.trimStart (rest ++ body) = body := by
    rw [Text.trimStart_append others, Text.trimStart_of_head starts]
  -- Neither keyword is a beginning of the other.
  simp only [keywords, List.mem_cons, List.not_mem_nil, or_false] at listed
  rcases listed with rfl | rfl <;>
    simp [afterKeyword?, keywords, Text.stripPrefix?, List.isPrefixOf?, first, trimmed]

/-- A keyword that stands in a text is found, or one before it. -/
theorem breakAtKeyword?_of_standing {afterWord : Bool} {before keyword : Text} {c : Char}
    (fresh : before.getLast?.elim afterWord isWord = false) (listed : keyword ∈ keywords)
    (blank : isBlank c = true) (rest : Text) :
    ∃ leading body, breakAtKeyword? afterWord (before ++ keyword ++ c :: rest) =
      some (leading, body) ∧ leading <+: before := by
  -- A keyword before this one ends the walk early, and else it comes to this one.
  induction before generalizing afterWord with
  | nil =>
    obtain rfl : afterWord = false := by simpa using fresh
    have blanks : IsBlankText (c :: rest.takeWhile isBlank) :=
      isBlankText_cons.mpr ⟨blank, fun d member => List.mem_takeWhile_imp member⟩
    have taken := afterKeyword?_append listed (List.cons_ne_nil _ _) blanks
      (Text.head_trimStart rest)
    rw [List.cons_append, Text.trimStart, List.takeWhile_append_dropWhile] at taken
    obtain ⟨d, more, shape⟩ :=
      List.exists_cons_of_ne_nil (isIdentifier_of_mem_keywords listed).nonempty
    refine ⟨[], rest.dropWhile isBlank, ?_, List.nil_prefix⟩
    rw [shape, List.cons_append] at taken
    rw [List.nil_append, shape, List.cons_append, breakAtKeyword?]
    simp [taken]
  | cons d before ih =>
    rw [List.cons_append, List.cons_append, breakAtKeyword?]
    cases (if afterWord then none else afterKeyword? (d :: (before ++ keyword ++ c :: rest))) with
    | some body => exact ⟨[], body, rfl, List.nil_prefix⟩
    | none =>
      have later : before.getLast?.elim (isWord d) isWord = false := by
        rw [List.getLast?_cons] at fresh
        cases last : before.getLast? <;> simpa [last] using fresh
      obtain ⟨leading, body, found, within⟩ := ih later
      exact ⟨d :: leading, body, by rw [found]; rfl, (List.prefix_cons_inj d).mpr within⟩

end Declaration
end IdlScout
