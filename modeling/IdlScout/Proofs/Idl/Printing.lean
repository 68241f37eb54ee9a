import IdlScout.Idl.Layout
import IdlScout.Proofs.Idl.Reading

/-! Printed lines: what they are, where they stand, and that no step of reading mistakes them. -/

namespace IdlScout

/-- The characters that end a line or a bound. -/
def Line.endings : Text := ['\n', '\r', '>']

/-- A line that stays one line, and as it is, when it is printed and read. -/
structure Line.IsStable (line : Line) : Prop where
  single : '\n' ∉ line.text
  ends : line.text.getLast? ≠ some '\r'
  unbounded : Declaration.dropUnbounded line.text = line.text

/-- A line without endings is stable. -/
theorem Line.IsStable.of_plain {line : Line} (plain : Text.Lacks line.text Line.endings) :
    line.IsStable where
  single member := plain _ member (by decide)
  ends last := plain _ (List.mem_of_getLast? last) (by decide)
  unbounded := Declaration.dropUnbounded_of_not_mem fun member => plain _ member (by decide)

namespace Layout

/-- A margin is made of spaces. -/
theorem eq_of_mem_margin {layout : Layout} {level : Nat} {c : Char}
    (member : c ∈ layout.margin level) : c = ' ' := by
  unfold margin at member
  split at member
  · exact List.eq_of_mem_replicate member
  · simp at member

/-- A margin is made of blanks. -/
theorem margin_blank (layout : Layout) (level : Nat) : IsBlankText (layout.margin level) := by
  intro c member
  obtain rfl := eq_of_mem_margin member
  decide

/-- A line is printed behind its margin, and the others after it. -/
theorem print_cons (layout : Layout) (line : Line) (rest : List Line) :
    layout.print (line :: rest) =
      layout.margin line.level ++ (line.text ++ '\n' :: layout.print rest) := by
  simp [print]

/-- Lines are printed one after the other. -/
theorem print_append (layout : Layout) (before after : List Line) :
    layout.print (before ++ after) = layout.print before ++ layout.print after :=
  List.flatMap_append

/-- The lines of a printed text are those that were printed, each behind its margin. -/
theorem lines_print (layout : Layout) {lines : List Line}
    (stable : ∀ line ∈ lines, line.IsStable) :
    Text.lines (layout.print lines) =
      lines.map fun line => layout.margin line.level ++ line.text := by
  induction lines with
  | nil => rfl
  | cons line rest ih =>
    have first := stable line (by simp)
    have later := ih fun other member => stable other (by simp [member])
    -- Neither the margin nor the text holds a line feed, so the line ends at its own.
    have absent : '\n' ∉ layout.margin line.level ++ line.text := by
      simp only [List.mem_append, not_or]
      exact ⟨fun member => absurd (eq_of_mem_margin member) (by decide), first.single⟩
    have last : (layout.margin line.level ++ line.text).getLast? ≠ some '\r' := by
      rw [List.getLast?_append]
      cases shape : line.text.getLast? with
      | none =>
        -- A margin holds no carriage return.
        intro inMargin
        have member : '\r' ∈ layout.margin line.level :=
          List.mem_of_getLast? (by simpa using inMargin)
        exact absurd (eq_of_mem_margin member) (by decide)
      | some c => simpa [shape] using first.ends
    rw [print_cons, ← List.append_assoc, Text.lines_append_feed absent last, later, List.map_cons]

/-- Printing keeps every line as it is when bounds are dropped. -/
theorem dropUnbounded_print (layout : Layout) {lines : List Line}
    (stable : ∀ line ∈ lines, line.IsStable) :
    Declaration.dropUnbounded (layout.print lines) = layout.print lines := by
  induction lines with
  | nil => rfl
  | cons line rest ih =>
    -- No bound reaches over the end of a line.
    rw [print_cons, Declaration.dropUnbounded_blank_append (layout.margin_blank _),
      Declaration.dropUnbounded_append_cons (by decide), (stable line (by simp)).unbounded,
      ih fun other member => stable other (by simp [member])]

/-- Printed lines end in a line feed. -/
theorem endsInBlank_print (layout : Layout) (lines : List Line) :
    Declaration.EndsInBlank (layout.print lines) := by
  induction lines with
  | nil => simp [print, Declaration.EndsInBlank]
  | cons line rest ih =>
    have ended := Declaration.EndsInBlank.append_feed line.text
    -- The last line ends in a line feed, which is a blank.
    have split := (Declaration.EndsInBlank.of_blank (layout.margin_blank line.level)).append
      (ended.append ih)
    rw [print_cons]
    simpa using split

/-- No keyword stands in printed lines if none stands in any of them. -/
theorem keywordless_print (layout : Layout) {lines : List Line}
    (keywordless : ∀ line ∈ lines, Declaration.Keywordless false (line.text ++ ['\n'])) :
    Declaration.Keywordless false (layout.print lines) := by
  induction lines with
  | nil => exact Declaration.KeywordFree.nil.keywordless false
  | cons line rest ih =>
    have later := ih fun other member => keywordless other (by simp [member])
    have margin := layout.margin_blank line.level
    have ended := Declaration.EndsInBlank.append_feed line.text
    -- A line ends in a line feed, so no keyword reaches into the next one.
    have inLine := (keywordless line (by simp)).append ended.outsideWord later
    have split := (Declaration.Keywordless.of_blank margin).append
      (Declaration.EndsInBlank.of_blank margin).outsideWord inLine
    rw [print_cons]
    simpa using split

end Layout

/-- A line that reading passes over on its way to the keyword. -/
structure Line.IsPassed (line : Line) : Prop where
  plain : Text.Lacks line.text Line.endings
  keywordless : Declaration.Keywordless false (line.text ++ ['\n'])

/-- A word character ends neither a line nor a bound. -/
theorem Line.not_mem_endings {c : Char} (word : isWord c = true) : c ∉ Line.endings := by
  intro listed
  simp only [Line.endings, List.mem_cons, List.not_mem_nil, or_false] at listed
  rcases listed with rfl | rfl | rfl <;> exact absurd word (by decide)

namespace Declaration

/-- The line that opens a module. -/
def opening (level : Nat) (outer : Text) : Line :=
  ⟨level, "module ".toList ++ outer ++ " \x7b".toList⟩

/-- The line that closes a module. -/
def closing (level : Nat) (outer : Text) : Line :=
  ⟨level, "\x7d; // module ".toList ++ outer⟩

/-- Modules are opened from the outermost to the innermost, and closed the other way round. -/
theorem nest_eq (inside : Nat → List Line) (level : Nat) (modules : List Text) :
    nest inside level modules =
      modules.mapIdx (fun i outer => opening (level + i) outer) ++
        inside (level + modules.length) ++
        (modules.mapIdx fun i outer => closing (level + i) outer).reverse := by
  induction modules generalizing level with
  | nil => simp [nest]
  | cons outer rest ih =>
    -- The lines inside the first module are one level further in.
    have deeper : ∀ i, level + 1 + i = level + (i + 1) := by omega
    simp [nest, ih, List.mapIdx_cons, deeper, opening, closing]

/-- An identifier that is no keyword stands behind a text that introduces it. -/
theorem keywordless_introduced {start name : Text} (free : KeywordFree start)
    (ends : EndsInBlank start) (identifier : IsIdentifier name) (unlisted : name ∉ keywords)
    (c : Char) : Keywordless false (start ++ (name ++ [c])) :=
  (free.keywordless false).append ends.outsideWord (.of_identifier identifier unlisted c)

/-- Reading passes over the line that opens a module. -/
theorem opening_isPassed {outer : Text} (identifier : IsIdentifier outer)
    (unlisted : outer ∉ keywords) (level : Nat) : (opening level outer).IsPassed := by
  constructor
  · simp only [opening, Text.lacks_append]
    exact ⟨⟨by decide, fun c member => Line.not_mem_endings (identifier.word c member)⟩, by decide⟩
  · -- The keyword of the line is none that opens a declaration, and its name is in no list of
    -- these.
    have introduced : Keywordless false ("module ".toList ++ (outer ++ [' '])) :=
      keywordless_introduced (by decide) (by decide) identifier unlisted ' '
    have ends : EndsInBlank ("module ".toList ++ outer ++ [' ']) :=
      .append_blank (by simp) (by decide) _
    have brace : KeywordFree "\x7b\n".toList := by decide
    have whole := introduced.append (by simpa using ends.outsideWord) (brace.keywordless false)
    simpa [opening] using whole

/-- The guard of a scoped name is no keyword. -/
theorem guard_not_mem_keywords {name : Text} (qualified : ScopedName.isScoped name = true) :
    ScopedName.guard name ∉ keywords := by
  intro listed
  have without : ∀ keyword ∈ keywords, '_' ∉ keyword := by decide
  exact without _ listed (ScopedName.mem_guard qualified)

/-- Reading passes over a line that names a guard. -/
theorem guardLine_isPassed {start name : Text} (qualified : ScopedName.isScoped name = true)
    (word : ∀ segment ∈ ScopedName.segments name, IsWordText segment)
    (plain : Text.Lacks start Line.endings) (free : KeywordFree start)
    (ends : EndsInBlank start) (level : Nat) :
    Line.IsPassed ⟨level, start ++ ScopedName.guard name⟩ := by
  have identifier := ScopedName.isIdentifier_guard qualified word
  constructor
  · -- A guard is one word, and what is before it ends in a blank.
    simp only [Text.lacks_append]
    exact ⟨plain, fun c member => Line.not_mem_endings (identifier.word c member)⟩
  · have introduced := keywordless_introduced free ends identifier
      (guard_not_mem_keywords qualified) '\n'
    simpa using introduced

/-- Reading passes over the line that includes a file. -/
theorem includeLine_isPassed {name : Text}
    (word : ∀ segment ∈ ScopedName.segments name, IsWordText segment)
    (flat : Bool) (level : Nat) :
    Line.IsPassed
      ⟨level, "#include \"".toList ++ ScopedName.path name flat ++ ".idl\"".toList⟩ := by
  -- A path holds only word characters, underscores and slashes.
  have ofPath : ∀ c ∈ ScopedName.path name flat, c = '_' ∨ c = '/' ∨ isWord c = true := by
    intro c member
    rcases ScopedName.of_mem_path member with below | slash | ⟨segment, listed, inside⟩
    · exact .inl below
    · exact .inr (.inl slash)
    · exact .inr (.inr (word segment listed c inside))
  constructor
  · simp only [Text.lacks_append]
    refine ⟨⟨by decide, fun c member => ?_⟩, by decide⟩
    rcases ofPath c member with rfl | rfl | isWord
    · decide
    · decide
    · exact Line.not_mem_endings isWord
  · -- The quoted path has no blanks, and ends in a quote.
    have visible :
        IsVisibleText (['"'] ++ ScopedName.path name flat ++ ".idl".toList ++ ['"']) := by
      simp only [isVisibleText_append]
      refine ⟨⟨⟨by decide, fun c member => ?_⟩, by decide⟩, by decide⟩
      rcases ofPath c member with rfl | rfl | isWord
      · decide
      · decide
      · exact isBlank_of_isWord isWord
    have quoted := Keywordless.of_last visible (by decide) '\n'
    have start : KeywordFree "#include ".toList := by decide
    have whole := (start.keywordless false).append (by decide) quoted
    simpa using whole

/-- Reading passes over the inclusions of scoped names. -/
theorem includeLines_isPassed {name : Text} (qualified : ScopedName.isScoped name = true)
    (word : ∀ segment ∈ ScopedName.segments name, IsWordText segment) (flat : Bool) :
    ∀ line ∈ includeLines flat name, line.IsPassed := by
  simp only [includeLines, List.forall_mem_cons]
  -- Three of the four lines name the guard.
  exact ⟨guardLine_isPassed qualified word (by decide) (by decide) (by decide) 0,
    guardLine_isPassed qualified word (by decide) (by decide) (by decide) 0,
    includeLine_isPassed word flat 0,
    guardLine_isPassed qualified word (by decide) (by decide) (by decide) 0, by simp⟩

end Declaration
end IdlScout
