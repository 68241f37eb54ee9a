import IdlScout.Proofs.Idl.Keyword

/-! What each step of reading a declaration makes of a text with known parts. -/

namespace IdlScout
namespace Declaration

/-- The characters of a bound that stands for none, and of what surrounds it. -/
def boundCharacters : Text :=
  '<' :: ',' :: unboundedSentinel ++ ['>']

/-- Bounds are dropped as they are written, the ones alone in their brackets first. -/
theorem dropUnbounded_eq (text : Text) : dropUnbounded text =
    Text.replace ",2147483647>".toList ['>'] (Text.replace "<2147483647>".toList [] text) := rfl

/-- Bounds are dropped on both sides of a character that no bound holds. -/
theorem dropUnbounded_append_cons {c : Char} (outside : c ∉ boundCharacters)
    (before after : Text) :
    dropUnbounded (before ++ c :: after) = dropUnbounded before ++ c :: dropUnbounded after := by
  -- Neither of the two marks has the character in it, so neither reaches over it.
  have alone : c ∉ '<' :: (unboundedSentinel ++ ['>']) := fun member =>
    outside (by simp only [boundCharacters, List.cons_append, List.mem_cons] at member ⊢; tauto)
  have behind : c ∉ ',' :: (unboundedSentinel ++ ['>']) := fun member =>
    outside (by simp only [boundCharacters, List.cons_append, List.mem_cons] at member ⊢; tauto)
  unfold dropUnbounded
  simp only [List.cons_append]
  rw [Text.replace_append_cons alone, Text.replace_append_cons behind]

/-- Without a closing bracket there is no bound. -/
theorem dropUnbounded_of_not_mem {text : Text} (absent : '>' ∉ text) :
    dropUnbounded text = text := by
  unfold dropUnbounded
  rw [Text.replace_of_not_mem (by simp) absent, Text.replace_of_not_mem (by simp) absent]

/-- An empty text has no bounds. -/
theorem dropUnbounded_nil : dropUnbounded [] = [] := rfl

/-- Without the digits there is no bound. -/
theorem dropUnbounded_of_not_infix {text : Text} (absent : ¬ unboundedSentinel <:+: text) :
    dropUnbounded text = text := by
  -- Both marks hold the digits.
  have within : ∀ c : Char, unboundedSentinel <:+: c :: unboundedSentinel ++ ['>'] := fun c =>
    ⟨[c], ['>'], rfl⟩
  unfold dropUnbounded
  rw [Text.replace_of_not_infix (fun found => absent ((within '<').trans found)),
    Text.replace_of_not_infix (fun found => absent ((within ',').trans found))]

/-- Nothing is new in a text without its bounds but a closing bracket. -/
theorem mem_of_mem_dropUnbounded {text : Text} {c : Char} (member : c ∈ dropUnbounded text)
    (other : c ≠ '>') : c ∈ text := by
  unfold dropUnbounded at member
  simp only [List.cons_append] at member
  -- The first pass leaves nothing behind, the second the bracket.
  rcases Text.mem_of_mem_replace member with inner | isNew
  · rcases Text.mem_of_mem_replace inner with found | isNew
    · exact found
    · simp at isNew
  · exact absurd (by simpa using isNew) other

/-- A blank is no part of a bound. -/
theorem blank_not_bound {c : Char} (blank : isBlank c = true) : c ∉ boundCharacters := by
  have apart : (!boundCharacters.contains c) = true :=
    of_isBlank (p := fun c => !boundCharacters.contains c) (by decide +kernel) blank
  simpa using apart

/-- Blanks before a text stay when bounds are dropped. -/
theorem dropUnbounded_blank_append {gap : Text} (blank : IsBlankText gap) (text : Text) :
    dropUnbounded (gap ++ text) = gap ++ dropUnbounded text := by
  induction gap with
  | nil => rfl
  -- No blank is in a bound, so that each is passed by itself.
  | cons c rest ih =>
    obtain ⟨first, others⟩ := isBlankText_cons.mp blank
    have split := dropUnbounded_append_cons (blank_not_bound first) [] (rest ++ text)
    rw [dropUnbounded_nil, List.nil_append, List.nil_append, ih others] at split
    exact split

/-- Blanks after a text stay when bounds are dropped. -/
theorem dropUnbounded_append_blank {gap : Text} (blank : IsBlankText gap) (text : Text) :
    dropUnbounded (text ++ gap) = dropUnbounded text ++ gap := by
  cases gap with
  | nil => simp
  | cons c rest =>
    obtain ⟨first, others⟩ := isBlankText_cons.mp blank
    -- The first blank keeps the bounds apart; those that follow stay as they are.
    have stays : dropUnbounded rest = rest := by
      have whole := dropUnbounded_blank_append others []
      rwa [List.append_nil, dropUnbounded_nil, List.append_nil] at whole
    rw [dropUnbounded_append_cons (blank_not_bound first), stays]

/-- Bounds are dropped on both sides of where a text starts that no bound goes on with. -/
theorem dropUnbounded_append {back : Text} (outside : ∀ c ∈ back.head?, c ∉ boundCharacters)
    (front : Text) : dropUnbounded (front ++ back) = dropUnbounded front ++ dropUnbounded back := by
  cases back with
  | nil => simp [dropUnbounded_nil]
  | cons c rest =>
    have alone := dropUnbounded_append_cons (outside c rfl) [] rest
    rw [dropUnbounded_nil, List.nil_append, List.nil_append] at alone
    rw [dropUnbounded_append_cons (outside c rfl), alone]

/-- A text without line feeds is on one line. -/
theorem onOneLine_of_not_mem {text : Text} (single : '\n' ∉ text) : onOneLine text = text := by
  have same : text.map (fun c => if c = '\n' then ' ' else c) = text.map id :=
    List.map_congr_left fun c member => if_neg (by rintro rfl; exact single member)
  rw [onOneLine, same, List.map_id]

/-- Texts are put on one line one after the other. -/
theorem onOneLine_append (before after : Text) :
    onOneLine (before ++ after) = onOneLine before ++ onOneLine after :=
  List.map_append

/-- Putting a text on one line keeps all characters of a kind that neither line feeds nor spaces
are of. -/
theorem filter_onOneLine {kind : Char → Bool} (feed : kind '\n' = false) (space : kind ' ' = false)
    (text : Text) : (onOneLine text).filter kind = text.filter kind := by
  induction text with
  | nil => rfl
  | cons c rest ih =>
    -- Only a line feed changes, into a space; neither is of the kind.
    rw [onOneLine, List.map_cons, ← onOneLine]
    split
    case isTrue same =>
      subst same
      rw [List.filter_cons_of_neg (by simp [space]), List.filter_cons_of_neg (by simp [feed]), ih]
    case isFalse => rw [List.filter_cons, List.filter_cons, ih]

/-- A visible character stays when a text is put on one line. -/
theorem onOneLine_cons {c : Char} (visible : isBlank c = false) (rest : Text) :
    onOneLine (c :: rest) = c :: onOneLine rest := by
  rw [onOneLine, List.map_cons, if_neg (by rintro rfl; exact absurd visible (by decide)), onOneLine]

/-- Blanks on several lines are blanks on one. -/
theorem onOneLine_blank {gap : Text} (blank : IsBlankText gap) : IsBlankText (onOneLine gap) := by
  intro c member
  obtain ⟨d, inside, rfl⟩ := List.mem_map.mp member
  split
  · decide
  · exact blank d inside

/-- Putting a text on one line adds only spaces. -/
theorem not_mem_onOneLine {text : Text} {mark : Char} (visible : isBlank mark = false)
    (absent : mark ∉ text) : mark ∉ onOneLine text := by
  intro member
  obtain ⟨d, inside, same⟩ := List.mem_map.mp member
  split at same
  · rw [← same] at visible
    exact absurd visible (by decide)
  · exact absent (same ▸ inside)

/-- A mark ends the fragments before it and starts those after it. -/
theorem fragments_append_mark {mark : Char} (visible : isBlank mark = false)
    (before after : Text) :
    fragments mark (before ++ mark :: after) = fragments mark before ++ fragments mark after := by
  simp [fragments, onOneLine_append, onOneLine_cons visible, Text.cut_append_mark]

/-- Blanks before a text add nothing to its fragments. -/
theorem fragments_blank_append {mark : Char} (visible : isBlank mark = false) {gap : Text}
    (blank : IsBlankText gap) (text : Text) :
    fragments mark (gap ++ text) = fragments mark text := by
  -- The mark is no blank, so the blanks are part of the first fragment, which is trimmed.
  have apart : mark ∉ onOneLine gap := (onOneLine_blank blank).not_mem visible
  obtain ⟨piece, more, pieces⟩ := List.exists_cons_of_ne_nil
    (Text.cut_ne_nil mark (onOneLine text))
  have joined := Text.cut_append apart pieces
  rw [fragments, onOneLine_append, joined, fragments, pieces, List.map_cons, List.map_cons,
    Text.trim_append_left (onOneLine_blank blank)]

/-- A text without the mark, and not of blanks only, is one fragment, without the blanks after
it. -/
theorem fragments_eq_singleton {mark : Char} (visible : isBlank mark = false) {text gap : Text}
    (blank : IsBlankText gap) (absent : mark ∉ text)
    (nonempty : Text.trim (onOneLine text) ≠ []) :
    fragments mark (text ++ gap) = [Text.trim (onOneLine text)] := by
  -- Neither the text nor the blanks after it hold the mark.
  have apart : mark ∉ onOneLine (text ++ gap) :=
    not_mem_onOneLine visible fun member => by
      rcases List.mem_append.mp member with inText | inGap
      · exact absent inText
      · exact blank.not_mem visible inGap
  have trimmed : Text.trim (onOneLine (text ++ gap)) = Text.trim (onOneLine text) := by
    rw [onOneLine_append, Text.trim_append_right (onOneLine_blank blank)]
  simp [fragments, Text.cut_of_not_mem apart, trimmed, nonempty]

/-- A text of one line without the mark is one fragment as it is. -/
theorem fragments_of_not_mem {mark : Char} (visible : isBlank mark = false) {text gap : Text}
    (blank : IsBlankText gap) (absent : mark ∉ text) (single : '\n' ∉ text)
    (nonempty : Text.trim text ≠ []) : fragments mark (text ++ gap) = [Text.trim text] := by
  have same := onOneLine_of_not_mem single
  have one := fragments_eq_singleton visible blank absent (by rwa [same])
  rwa [same] at one

/-- Blanks hold no fragment. -/
theorem fragments_of_blank {mark : Char} (visible : isBlank mark = false) {gap : Text}
    (blank : IsBlankText gap) : fragments mark gap = [] := by
  have none : fragments mark [] = [] := rfl
  simpa [none] using fragments_blank_append visible blank []

/-- Every fragment is trimmed and not empty, and holds neither the mark nor a line feed. -/
theorem of_mem_fragments {mark : Char} {text piece : Text}
    (listed : piece ∈ fragments mark text) :
    piece ≠ [] ∧ IsTrimmed piece ∧ mark ∉ piece ∧ '\n' ∉ piece := by
  rw [fragments, List.mem_filter, List.mem_map] at listed
  obtain ⟨⟨whole, inCut, rfl⟩, nonempty⟩ := listed
  obtain ⟨absent, kept⟩ := Text.of_mem_cut inCut
  -- Line feeds were made spaces before the text was cut.
  have single : '\n' ∉ onOneLine text := by
    intro member
    obtain ⟨d, -, same⟩ := List.mem_map.mp member
    split at same
    · exact absurd same (by decide)
    · contradiction
  exact ⟨by simpa using nonempty, Text.isTrimmed_trim whole,
    fun member => absent (Text.mem_of_mem_trim member),
    fun member => single (kept _ (Text.mem_of_mem_trim member))⟩

/-- What is read comes from four parts of the text: annotations from before the first keyword, the
name from before the first opening brace, and members from before the first closing brace with a
semicolon. -/
theorem parts_of_read {text : Text} {declaration : Declaration}
    (found : read text = .ok declaration) :
    ∃ leading remaining head body inside rest,
      breakAtKeyword? false (dropUnbounded text) = some (leading, remaining) ∧
        Text.breakAt? '{' remaining = some (head, body) ∧
        Text.breakOn? ['}', ';'] body = some (inside, rest) ∧
        declaration.annotations = fragments '@' leading ∧
        declaration.modules ++ [declaration.name] =
          (ScopedName.segments (stripBase (Text.trim head))).map Text.trim ∧
        declaration.members = fragments ';' inside := by
  unfold read at found
  -- Each part that could be missing was found.
  split at found
  · rename_i leading remaining opened
    split at found
    · rename_i head body broken
      simp only [bind, Except.bind, throw, throwThe, MonadExceptOf.throw] at found
      split at found
      · cases found
      · split at found
        · rename_i inside rest closed
          obtain rfl := Except.ok.inj found
          refine ⟨leading, remaining, head, body, inside, rest, opened, broken, closed, rfl, ?_,
            rfl⟩
          -- A name has at least one segment.
          have segmented :
              (ScopedName.segments (stripBase (Text.trim head))).map Text.trim ≠ [] := fun none =>
            Text.cutAll_ne_nil _ _ (List.map_eq_nil_iff.mp none)
          dsimp only
          rw [List.getLast?_eq_some_getLast segmented, Option.getD_some,
            List.dropLast_append_getLast]
        · cases found
    · cases found
  · cases found

/-- Annotations are the fragments of what is before the first keyword, and members those of some
text behind it. -/
theorem of_read {text : Text} {declaration : Declaration} (found : read text = .ok declaration) :
    ∃ leading remaining inside,
      breakAtKeyword? false (dropUnbounded text) = some (leading, remaining) ∧
        declaration.annotations = fragments '@' leading ∧
          declaration.members = fragments ';' inside := by
  obtain ⟨leading, remaining, -, -, inside, -, opened, -, -, annotations, -, members⟩ :=
    parts_of_read found
  exact ⟨leading, remaining, inside, opened, annotations, members⟩

/-- A text is read as what its parts hold: annotations before the keyword, the name up to the first
opening brace, and members up to the first closing brace with a semicolon. -/
theorem read_of_parts {text leading keyword gap head inside rest name : Text}
    {modules : List Text}
    (parts : dropUnbounded text =
      leading ++ (keyword ++ (gap ++ (head ++ '{' :: (inside ++ '}' :: ';' :: rest)))))
    (keywordless : Keywordless false leading)
    (ends : EndsOutsideWord leading)
    (listed : keyword ∈ keywords) (nonempty : gap ≠ []) (blank : IsBlankText gap)
    (starts : ∀ c ∈ (head ++ ['{']).head?, isBlank c = false) (unopened : '{' ∉ head)
    (declares : stripBase (Text.trim head) = ScopedName.ofSegments (modules ++ [name]))
    (identifiers : ∀ segment ∈ modules ++ [name], IsIdentifier segment) (unclosed : '}' ∉ inside) :
    read text = .ok ⟨fragments '@' leading, modules, name, fragments ';' inside⟩ := by
  have front : ∀ c ∈ (head ++ '{' :: (inside ++ '}' :: ';' :: rest)).head?, isBlank c = false := by
    cases head <;> simpa using starts
  have fresh : leading.getLast?.elim false isWord = false := by
    cases last : leading.getLast? with
    | none => rfl
    | some c => exact ends c last
  have opened := breakAtKeyword?_append keywordless fresh
    (afterKeyword?_append listed nonempty blank front) (by simp [nonempty])
  have named := Text.breakAt?_append unopened (inside ++ '}' :: ';' :: rest)
  have closed := Text.breakOn?_append unclosed [';'] rest
  -- The segments are those that were joined, and have no blanks to trim.
  have segments : (ScopedName.segments (stripBase (Text.trim head))).map Text.trim =
      modules ++ [name] := by
    rw [declares, ScopedName.segments_ofSegments (by simp) fun segment member =>
      (identifiers segment member).not_mem (by decide)]
    exact (List.map_congr_left fun segment member =>
      Text.trim_of_isTrimmed (identifiers segment member).isTrimmed).trans (List.map_id _)
  have present : (stripBase (Text.trim head)).isEmpty = false := by
    rw [declares, List.isEmpty_eq_false_iff]
    exact ScopedName.ofSegments_ne_nil identifiers
  simp only [List.append_assoc, List.cons_append, List.nil_append] at closed
  simp [read, parts, opened, named, closed, segments, present, Pure.pure, Except.pure]

end Declaration
end IdlScout
