import IdlScout.Idl.Declaration
import IdlScout.Proofs.Text.Cut
import IdlScout.Proofs.Text.Trim

/-! Names of identifiers are cut into their segments again, and free of a base clause. -/

namespace IdlScout

/-- A text of word characters, and not an empty one. -/
structure IsIdentifier (text : Text) : Prop where
  nonempty : text ≠ []
  word : IsWordText text

instance (text : Text) : Decidable (IsIdentifier text) :=
  decidable_of_iff (text ≠ [] ∧ IsWordText text)
    ⟨fun ⟨nonempty, word⟩ => ⟨nonempty, word⟩, fun ⟨nonempty, word⟩ => ⟨nonempty, word⟩⟩

/-- A character that belongs to no word is in no identifier. -/
theorem IsIdentifier.not_mem {text : Text} (identifier : IsIdentifier text) {c : Char}
    (other : isWord c = false) : c ∉ text := fun member => by
  simp [identifier.word c member] at other

/-- An identifier has no blanks. -/
theorem IsIdentifier.visible {text : Text} (identifier : IsIdentifier text) :
    IsVisibleText text := fun c member =>
  isBlank_of_isWord (identifier.word c member)

/-- An identifier is trimmed. -/
theorem IsIdentifier.isTrimmed {text : Text} (identifier : IsIdentifier text) : IsTrimmed text :=
  identifier.visible.isTrimmed

namespace ScopedName

/-- A name is cut into the segments it was joined from. -/
theorem segments_ofSegments {parts : List Text} (nonempty : parts ≠ [])
    (plain : ∀ part ∈ parts, ':' ∉ part) : segments (ofSegments parts) = parts := by
  -- Between two segments stands the separator, and none of it is inside one.
  induction parts with
  | nil => exact absurd rfl nonempty
  | cons part rest ih =>
    have first := plain part (by simp)
    cases rest with
    | nil =>
      refine Text.cutAll_of_not_infix fun inside => first (inside.subset ?_)
      decide
    | cons next more =>
      have later := ih (by simp) fun other member => plain other (by simp [member])
      have shape : ofSegments (part :: next :: more) =
          part ++ (':' :: [':'] ++ ofSegments (next :: more)) := by
        simp [ofSegments, separator, Text.join]
      rw [shape, segments]
      exact (Text.cutAll_append_mark first [':'] _).trans (congrArg (part :: ·) later)

/-- A name has no character but colons and those of its segments. -/
theorem mem_ofSegments {parts : List Text} {c : Char} (member : c ∈ ofSegments parts) :
    c = ':' ∨ ∃ part ∈ parts, c ∈ part :=
  (Text.mem_of_mem_join member).imp_left fun inSeparator => by simpa [separator] using inSeparator

/-- A name of identifiers is made of word characters and colons. -/
theorem isWord_of_mem_ofSegments {parts : List Text}
    (identifiers : ∀ part ∈ parts, IsIdentifier part) {c : Char}
    (member : c ∈ ofSegments parts) : c = ':' ∨ isWord c = true :=
  (mem_ofSegments member).imp_right fun ⟨part, listed, inside⟩ =>
    (identifiers part listed).word c inside

/-- A name of identifiers has no blanks. -/
theorem visible_ofSegments {parts : List Text}
    (identifiers : ∀ part ∈ parts, IsIdentifier part) : IsVisibleText (ofSegments parts) := by
  intro c member
  -- The separator and the word characters of the segments are all there is.
  rcases isWord_of_mem_ofSegments identifiers member with rfl | word
  · decide
  · exact isBlank_of_isWord word

/-- A name of identifiers is not empty. -/
theorem ofSegments_ne_nil {modules : List Text} {name : Text}
    (identifiers : ∀ segment ∈ modules ++ [name], IsIdentifier segment) :
    ofSegments (modules ++ [name]) ≠ [] := by
  intro empty
  have same := segments_ofSegments (by simp) fun part member =>
    (identifiers part member).not_mem (c := ':') (by decide)
  -- The empty text has the empty text as its only segment.
  have single : modules ++ [name] = [] ++ [[]] := by
    rw [← same, empty]
    rfl
  have last : [name] = [[]] := (List.append_inj' single rfl).2
  exact (identifiers name (by simp)).nonempty (by simpa using last)

/-- A name without a colon is in no module. -/
theorem isScoped_of_not_mem {name : Text} (absent : ':' ∉ name) : isScoped name = false :=
  Bool.eq_false_iff.mpr fun qualified =>
    absent ((Text.infix_of_occursIn qualified).subset (by decide))

/-- The guard of a scoped name joins its segments. -/
theorem mem_guard {name : Text} (qualified : isScoped name = true) : '_' ∈ guard name :=
  Text.mem_join_of_separator (by simp)
    (Text.one_lt_length_cutAll (Text.infix_of_occursIn qualified))

/-- The guard of a scoped name is an identifier if its segments are made of word characters. -/
theorem isIdentifier_guard {name : Text} (qualified : isScoped name = true)
    (word : ∀ segment ∈ segments name, IsWordText segment) :
    IsIdentifier (guard name) := by
  -- A guard replaces separators by underscores, which are word characters too.
  refine ⟨List.ne_nil_of_mem (mem_guard qualified), fun c member => ?_⟩
  rcases Text.mem_of_mem_join member with between | ⟨segment, listed, inside⟩
  · obtain rfl : c = '_' := by simpa using between
    decide
  · exact word segment listed c inside

/-- A path has no character but those of the segments and one between them. -/
theorem of_mem_path {name : Text} {flat : Bool} {c : Char} (member : c ∈ path name flat) :
    c = '_' ∨ c = '/' ∨ ∃ segment ∈ segments name, c ∈ segment := by
  -- What stands between the segments is an underscore or a slash, as the names are flat or not.
  rcases Text.mem_of_mem_join member with between | inside
  · cases flat
    · exact .inr (.inl (by simpa using between))
    · exact .inl (by simpa using between)
  · exact .inr (.inr inside)

/-- The segments of a name are joined to it again. -/
theorem ofSegments_segments (name : Text) : ofSegments (segments name) = name :=
  Text.join_cutAll ':' [':'] name

/-- Names with a folder for each module have paths of their own. -/
theorem path_injective {a b : Text} (plainA : '/' ∉ a) (plainB : '/' ∉ b)
    (same : path a false = path b false) : a = b := by
  have cutting {name : Text} (plain : '/' ∉ name) :
      Text.cut '/' (path name false) = segments name := by
    -- With the slash for a separator the path is cut where the name is, as no segment has a slash.
    refine Text.cut_join (Text.cutAll_ne_nil _ _) fun segment listed inside => plain ?_
    rw [← ofSegments_segments name]
    exact Text.mem_join_of_mem listed inside
  rw [← ofSegments_segments a, ← ofSegments_segments b, ← cutting plainA, ← cutting plainB, same]

end ScopedName

namespace Declaration

/-- A character that is no colon is kept on the way to one. -/
theorem beforeLoneColon_cons {c : Char} (other : c ≠ ':') (text : Text) :
    beforeLoneColon (c :: text) = (beforeLoneColon text).map (c :: ·) := by
  rw [beforeLoneColon.eq_3 c text (by simp [other]), if_neg other]

/-- A text without colons is kept on the way to one. -/
theorem beforeLoneColon_append {before : Text} (absent : ':' ∉ before) (text : Text) :
    beforeLoneColon (before ++ text) = (beforeLoneColon text).map (before ++ ·) := by
  -- A character that is no colon decides nothing, so the text before the colon grows by it.
  induction before with
  | nil => simp
  | cons c rest ih =>
    simp only [List.mem_cons, not_or] at absent
    rw [List.cons_append, beforeLoneColon_cons (Ne.symm absent.1), ih absent.2, Option.map_map]
    rfl

/-- A name of several segments is kept on the way to a lone colon. -/
theorem beforeLoneColon_ofSegments {segments : List Text} (nonempty : segments ≠ [])
    (plain : ∀ segment ∈ segments, ':' ∉ segment) (text : Text) :
    beforeLoneColon (ScopedName.ofSegments segments ++ text) =
      (beforeLoneColon text).map (ScopedName.ofSegments segments ++ ·) := by
  induction segments with
  | nil => exact absurd rfl nonempty
  -- The two colons between segments are read as one separator, which is no lone colon.
  | cons segment rest ih =>
    have first := plain segment (by simp)
    cases rest with
    | nil => exact beforeLoneColon_append first text
    | cons next more =>
      have later := ih (by simp) fun other member => plain other (by simp [member])
      have shape : ScopedName.ofSegments (segment :: next :: more) =
          segment ++ (':' :: ':' :: ScopedName.ofSegments (next :: more)) := by
        simp [ScopedName.ofSegments, ScopedName.separator, Text.join]
      rw [shape, List.append_assoc, beforeLoneColon_append first, List.cons_append,
        List.cons_append, beforeLoneColon.eq_2, later, Option.map_map, Option.map_map]
      simp [Function.comp_def]

/-- A text that holds no lone colon has no base clause. -/
theorem stripBase_ofSegments {segments : List Text} (nonempty : segments ≠ [])
    (plain : ∀ segment ∈ segments, ':' ∉ segment) :
    stripBase (ScopedName.ofSegments segments) = ScopedName.ofSegments segments := by
  -- Nothing follows the name, so there is no lone colon to stop at.
  have none := beforeLoneColon_ofSegments nonempty plain []
  rw [List.append_nil] at none
  rw [stripBase, none]
  rfl

end Declaration
end IdlScout
