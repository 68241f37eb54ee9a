import IdlScout.Proofs.Idl.Spelling

/-! Strings in the annotations before a declaration, and what a keyword in one of them does. -/

namespace IdlScout

/-- A string between quotation marks. -/
structure QuotedText where
  text : Text
  unquoted : '"' ∉ text
  single : '\n' ∉ text

/-- What is outside quotation marks, where no keyword stands. -/
structure PlainText where
  text : Text
  unquoted : '"' ∉ text
  keywordless : Declaration.Keywordless false (Declaration.dropUnbounded text)

/-- A text with strings in it, each with what is written up to the next one. -/
structure QuotedRun where
  opening : PlainText
  strings : List (QuotedText × PlainText)

/-- The characters of a text with strings in it. -/
def QuotedRun.text (run : QuotedRun) : Text :=
  run.opening.text ++ run.strings.flatMap fun (string, behind) =>
    '"' :: (string.text ++ '"' :: behind.text)

/-- What is written before a declaration: annotations, whose arguments may be strings. -/
structure Preamble extends QuotedRun where
  apart : Declaration.EndsOutsideWord (Declaration.dropUnbounded toQuotedRun.text)

namespace Declaration

/-- No keyword stands in a text with strings exactly if none stands in a string. -/
theorem keywordless_run_iff (run : QuotedRun) :
    Keywordless false (dropUnbounded run.text) ↔
      ∀ entry ∈ run.strings, Keywordless false (dropUnbounded entry.1.text) := by
  obtain ⟨opening, strings⟩ := run
  induction strings generalizing opening with
  | nil => simpa [QuotedRun.text] using opening.keywordless
  | cons entry strings ih =>
    obtain ⟨string, behind⟩ := entry
    -- The run is its plain text, a string between two marks, and a run again.
    have shape : (QuotedRun.mk opening ((string, behind) :: strings)).text =
        opening.text ++ '"' :: (string.text ++ '"' :: (QuotedRun.mk behind strings).text) := by
      simp [QuotedRun.text]
    -- Neither a keyword nor a bound reaches over a quotation mark.
    rw [shape, dropUnbounded_append_cons (by decide), dropUnbounded_append_cons (by decide),
      keywordless_append_cons_iff (by decide) (by decide),
      keywordless_append_cons_iff (by decide) (by decide), ih, List.forall_mem_cons]
    exact ⟨fun ⟨_, parts⟩ => parts, fun parts => ⟨opening.keywordless, parts⟩⟩

/-- The characters that count in fragments: neither blanks nor the mark between them. -/
def isKept (mark c : Char) : Bool :=
  !isBlank c && c != mark

/-- Fragments hold all characters of a text that are neither blanks nor marks. -/
theorem filter_fragments (mark : Char) (text : Text) :
    (fragments mark text).flatten.filter (isKept mark) = text.filter (isKept mark) := by
  -- Trimming takes only blanks away, and cutting only marks.
  have blank (c : Char) (blank : isBlank c = true) : isKept mark c = false := by
    simp [isKept, blank]
  have trimmed : ∀ pieces : List Text, ((pieces.map Text.trim).flatten).filter (isKept mark) =
      pieces.flatten.filter (isKept mark) := by
    intro pieces
    induction pieces with
    | nil => rfl
    | cons piece more ih =>
      rw [List.map_cons, List.flatten_cons, List.flatten_cons, List.filter_append,
        List.filter_append, Text.filter_trim blank, ih]
  rw [fragments, List.flatten_filter_not_isEmpty, trimmed,
    Text.filter_flatten_cut (by simp [isKept]),
    filter_onOneLine (blank _ (by decide)) (blank _ (by decide))]

/-- A keyword that is found in a text is in no annotation. -/
theorem fragments_ne_of_standing {leading before keyword : Text} (within : leading <+: before)
    (listed : keyword ∈ keywords) (rest : Text) :
    fragments '@' leading ≠ fragments '@' (before ++ keyword ++ rest) := by
  intro same
  -- The letters of the keyword are counted on one side only.
  have counted := congrArg
    (fun pieces : List Text => (pieces.flatten.filter (isKept '@')).length) same
  simp only [filter_fragments, List.filter_append, List.length_append] at counted
  have fewer : (leading.filter (isKept '@')).length ≤ (before.filter (isKept '@')).length :=
    (within.filter _).length_le
  have more : ∀ keyword ∈ keywords, 0 < (keyword.filter (isKept '@')).length := by decide +kernel
  have some := more keyword listed
  omega

end Declaration

/-- Behind annotations with strings a declaration is detected, and all that is before it read as
annotations, exactly if no keyword stands in a string. -/
theorem DetectedType.detect_behind_strings_iff (preamble : Preamble) (frame : Spelling)
    {inside : Text} (unclosed : '\x7d' ∉ inside) :
    (∃ type, detect frame.fullName (preamble.text ++ frame.around inside) = .ok type ∧
      type.isParsed = true ∧ type.name = frame.name ∧ type.modules = frame.modules ∧
      type.members = Declaration.fragments ';' (Declaration.dropUnbounded inside) ∧
      type.annotations = Declaration.fragments '@'
        (Declaration.dropUnbounded preamble.text ++ frame.leading)) ↔
    ∀ entry ∈ preamble.strings,
      Declaration.Keywordless false (Declaration.dropUnbounded entry.1.text) := by
  rw [← Declaration.keywordless_run_iff]
  constructor
  case mpr =>
    intro keywordless
    -- Where no keyword stands before the declaration, it is read as behind a plain text.
    have found := frame.read_behind keywordless preamble.apart unclosed
    exact ⟨_, detect_of_read found rfl, rfl, rfl, rfl, rfl, rfl⟩
  case mp =>
    rintro ⟨type, found, parsed, -, -, -, annotated⟩ before keyword c after split listed blank
    by_contra fresh
    obtain ⟨declaration, wasRead, present⟩ := read_of_detect found parsed
    obtain ⟨leading, remaining, -, opened, fragmented, -⟩ := Declaration.of_read wasRead
    -- The keyword in the string is found first, and what is behind it is in no annotation.
    have parts : Declaration.dropUnbounded (preamble.text ++ frame.around inside) =
        before ++ keyword ++ c :: (after ++ Declaration.dropUnbounded (frame.around inside)) := by
      rw [Declaration.dropUnbounded_append (frame.head_around inside), split]
      simp
    obtain ⟨first, body, taken, within⟩ := Declaration.breakAtKeyword?_of_standing
      (Bool.eq_false_iff.mpr fresh) listed blank
      (after ++ Declaration.dropUnbounded (frame.around inside))
    rw [parts, taken] at opened
    obtain ⟨rfl, rfl⟩ := Prod.mk.inj (Option.some.inj opened)
    refine Declaration.fragments_ne_of_standing within listed (c :: (after ++ frame.leading)) ?_
    have listing : type.annotations = declaration.annotations := by simp [annotations, present]
    rw [← fragmented, ← listing, annotated, split]
    simp

/-- Words that only start with a keyword may stand in a string, as may braces and colons. -/
theorem DetectedType.detect_behind_string :
    ∃ type, detect "X".toList
        "@verbatim(text=\"structs \x7ba::b\x7d;\")\nstruct X \x7blong a;\x7d;".toList = .ok type ∧
      type.isParsed = true ∧ type.name = ['X'] := by
  -- The spelling is built from its parts, so that the theorem can be applied to it.
  let tight : Gap := ⟨[], by decide⟩
  let space : Break := ⟨⟨[' '], by decide⟩, by decide⟩
  let quoted : QuotedText := ⟨"structs \x7ba::b\x7d;".toList, by decide, by decide⟩
  let opening : PlainText := ⟨"@verbatim(text=".toList, by decide,
    Declaration.KeywordFree.keywordless (by decide +kernel) false⟩
  let closing : PlainText := ⟨")\n".toList, by decide,
    Declaration.KeywordFree.keywordless (by decide +kernel) false⟩
  let preamble : Preamble := ⟨⟨opening, [(quoted, closing)]⟩, by decide⟩
  let frame : Spelling := {
    lead := tight
    annotations := []
    keyword := "struct".toList
    listed := by decide
    afterKeyword := space
    modules := []
    name := ['X']
    identifiers := by decide
    base := none
    beforeBrace := space.toGap
    afterBrace := tight
    members := []
    rest := [] }
  have word : Declaration.Keywordless false ("structs".toList ++ [' ']) :=
    .of_identifier (by decide) (by decide) ' '
  have others : Declaration.KeywordFree "\x7ba::b\x7d;".toList := by decide +kernel
  have quiet : Declaration.Keywordless false (Declaration.dropUnbounded quoted.text) := by
    rw [Declaration.dropUnbounded_of_not_mem (by decide)]
    exact word.append (by decide) (others.keywordless false)
  have unclosed : '\x7d' ∉ "long a;".toList := by decide
  obtain ⟨type, found, parsed, named, -⟩ :=
    (detect_behind_strings_iff preamble frame unclosed).mpr fun entry listed => by
      obtain rfl := List.mem_singleton.mp listed
      exact quiet
  exact ⟨type, found, parsed, named⟩

/-- A word in a string is taken for the keyword, and the text behind it for a name that is not the
one reported. -/
theorem DetectedType.detect_keyword_in_string :
    detect "X".toList
        "@verbatim(text=\"a struct foo\")\nstruct X \x7b\n  long a;\n\x7d;".toList =
      .error (.identity "X".toList "foo\")\nstruct X".toList) := by
  decide +kernel

end IdlScout
