import IdlScout.Text.Blank
import IdlScout.Text.Word
import Mathlib.Data.List.TakeWhile

/-! Trimming removes the blanks around a text and nothing else, and no blank belongs to a word. -/

namespace IdlScout

/-- The code points that are blank. -/
def blankCodes : List Nat :=
  [9, 10, 11, 12, 13, 32, 0x85, 0xA0, 0x1680, 0x2000, 0x2001, 0x2002, 0x2003, 0x2004, 0x2005,
   0x2006, 0x2007, 0x2008, 0x2009, 0x200A, 0x2028, 0x2029, 0x202F, 0x205F, 0x3000]

/-- A property of all blanks is checked for each of them. -/
theorem of_isBlank {p : Char → Bool} (checked : ∀ code ∈ blankCodes, p (Char.ofNat code) = true)
    {c : Char} (blank : isBlank c = true) : p c = true := by
  -- Blanks are given by ranges of codes, which the list spells out.
  have listed : c.toNat ∈ blankCodes := by
    simp only [isBlank, Bool.or_eq_true, Bool.and_eq_true, decide_eq_true_eq, beq_iff_eq] at blank
    simp only [blankCodes, List.mem_cons, List.not_mem_nil, or_false]
    omega
  rw [← Char.ofNat_toNat c]
  exact checked _ listed

/-- A word has no blanks in it. -/
theorem isBlank_of_isWord {c : Char} (word : isWord c = true) : isBlank c = false := by
  rw [Bool.eq_false_iff]
  intro blank
  -- The check runs over the list of blanks.
  have apart : (!isWord c) = true :=
    of_isBlank (p := fun c => !isWord c) (by decide +kernel) blank
  simp [word] at apart

/-- No blank belongs to a word. -/
theorem isWord_of_isBlank {c : Char} (blank : isBlank c = true) : isWord c = false := by
  rw [Bool.eq_false_iff]
  intro word
  simp [isBlank_of_isWord word] at blank

/-- A text of blanks only. -/
def IsBlankText (text : Text) : Prop :=
  ∀ c ∈ text, isBlank c = true

/-- A text without blanks. -/
def IsVisibleText (text : Text) : Prop :=
  ∀ c ∈ text, isBlank c = false

/-- A text of word characters only. -/
def IsWordText (text : Text) : Prop :=
  ∀ c ∈ text, isWord c = true

-- Each is decided over the text, as there are far too many characters.
instance (text : Text) : Decidable (IsBlankText text) :=
  List.decidableBAll (fun c => isBlank c = true) text

instance (text : Text) : Decidable (IsVisibleText text) :=
  List.decidableBAll (fun c => isBlank c = false) text

instance (text : Text) : Decidable (IsWordText text) :=
  List.decidableBAll (fun c => isWord c = true) text

/-- A text is of blanks if its first character and the others are. -/
theorem isBlankText_cons {c : Char} {rest : Text} :
    IsBlankText (c :: rest) ↔ isBlank c = true ∧ IsBlankText rest :=
  List.forall_mem_cons

/-- A character that is no blank is in no text of blanks. -/
theorem IsBlankText.not_mem {gap : Text} (blank : IsBlankText gap) {c : Char}
    (visible : isBlank c = false) : c ∉ gap := fun member => by
  simp [blank c member] at visible

/-- A text has no blanks if neither of its parts has any. -/
theorem isVisibleText_append {before after : Text} :
    IsVisibleText (before ++ after) ↔ IsVisibleText before ∧ IsVisibleText after :=
  List.forall_mem_append

/-- A text with no blank at either end. -/
def IsTrimmed (text : Text) : Prop :=
  (∀ c ∈ text.head?, isBlank c = false) ∧ ∀ c ∈ text.getLast?, isBlank c = false

instance (text : Text) : Decidable (IsTrimmed text) :=
  decidable_of_iff
    (text.head?.all (!isBlank ·) = true ∧ text.getLast?.all (!isBlank ·) = true) <| by
    cases first : text.head? <;> cases last : text.getLast? <;> simp [IsTrimmed, first, last]

/-- A text without blanks is trimmed. -/
theorem IsVisibleText.isTrimmed {text : Text} (visible : IsVisibleText text) : IsTrimmed text :=
  ⟨fun c first => visible c (List.mem_of_mem_head? first),
    fun c last => visible c (List.mem_of_mem_getLast? last)⟩

namespace Text

/-- Blanks before a text do not matter to trimming. -/
theorem trimStart_append {gap : Text} (blank : IsBlankText gap) (text : Text) :
    trimStart (gap ++ text) = trimStart text :=
  List.dropWhile_append_of_pos blank

/-- Blanks after a text do not matter to trimming. -/
theorem trimEnd_append {gap : Text} (blank : IsBlankText gap) (text : Text) :
    trimEnd (text ++ gap) = trimEnd text := by
  have reversed : ∀ c ∈ gap.reverse, isBlank c = true := fun c member =>
    blank c (List.mem_reverse.mp member)
  rw [trimEnd, List.reverse_append, List.dropWhile_append_of_pos reversed, trimEnd]

/-- Trimming at the start goes no further than a visible character. -/
theorem trimStart_append_cons {c : Char} (visible : isBlank c = false) (before after : Text) :
    trimStart (before ++ c :: after) = trimStart before ++ c :: after := by
  -- Either all that is before the character is blank, or the dropping stops in it.
  rw [trimStart, List.dropWhile_append]
  split
  · rename_i empty
    have nothing : trimStart before = [] := List.isEmpty_iff.mp empty
    rw [nothing, List.dropWhile_cons_of_neg (by simp [visible]), List.nil_append]
  · rfl

/-- Trimming at the end goes no further than a visible character. -/
theorem trimEnd_append_cons {c : Char} (visible : isBlank c = false) (before after : Text) :
    trimEnd (before ++ c :: after) = before ++ c :: trimEnd after := by
  have stops := trimStart_append_cons visible after.reverse before.reverse
  rw [trimStart, trimStart] at stops
  simp [trimEnd, stops]

/-- A text that starts with no blank is left as it is at its start. -/
theorem trimStart_of_head {text : Text} (head : ∀ c ∈ text.head?, isBlank c = false) :
    trimStart text = text := by
  cases text with
  | nil => rfl
  | cons c rest =>
    have plain : isBlank c = false := head c (by simp)
    simp [trimStart, plain]

/-- A text that ends with no blank is left as it is at its end. -/
theorem trimEnd_of_last {text : Text} (last : ∀ c ∈ text.getLast?, isBlank c = false) :
    trimEnd text = text := by
  have head : ∀ c ∈ text.reverse.head?, isBlank c = false := by simpa using last
  have same : text.reverse.dropWhile isBlank = text.reverse := trimStart_of_head head
  rw [trimEnd, same, List.reverse_reverse]

/-- What is trimmed stays as it is. -/
theorem trim_of_isTrimmed {text : Text} (trimmed : IsTrimmed text) : trim text = text := by
  rw [trim, trimStart_of_head trimmed.1, trimEnd_of_last trimmed.2]

/-- What is left starts with no blank. -/
theorem head_trimStart (text : Text) : ∀ c ∈ (trimStart text).head?, isBlank c = false := by
  intro c first
  have dropped := List.head?_dropWhile_not isBlank text
  simp only [trimStart, Option.mem_def] at first
  simpa [first] using dropped

/-- What is left ends with no blank. -/
theorem last_trimEnd (text : Text) : ∀ c ∈ (trimEnd text).getLast?, isBlank c = false := by
  simpa [trimEnd, trimStart] using head_trimStart text.reverse

/-- A text is a beginning of itself without the blanks at its end. -/
theorem trimEnd_isPrefix (text : Text) : trimEnd text <+: text := by
  have suffix := List.dropWhile_suffix (l := text.reverse) isBlank
  simpa [trimEnd] using List.reverse_prefix.mpr suffix

/-- Trimming leaves no blank at either end. -/
theorem isTrimmed_trim (text : Text) : IsTrimmed (trim text) := by
  refine ⟨fun c first => ?_, last_trimEnd _⟩
  -- The first character of a beginning is that of the whole.
  obtain ⟨gap, whole⟩ := trimEnd_isPrefix (trimStart text)
  refine head_trimStart text c ?_
  rw [← whole]
  have found : (trimEnd (trimStart text)).head? = some c := first
  simp [found]

/-- Trimming adds no character. -/
theorem mem_of_mem_trim {text : Text} {c : Char} (member : c ∈ trim text) : c ∈ text :=
  (List.dropWhile_suffix isBlank).subset ((trimEnd_isPrefix _).subset member)

/-- A text that starts with no blank is not trimmed away. -/
theorem trimEnd_ne_nil {text : Text} (nonempty : text ≠ [])
    (head : ∀ c ∈ text.head?, isBlank c = false) : trimEnd text ≠ [] := by
  obtain ⟨c, rest, rfl⟩ := List.exists_cons_of_ne_nil nonempty
  intro empty
  -- All characters would be blank, the first among them.
  have all : ∀ d ∈ (c :: rest).reverse, isBlank d = true := by
    simpa [trimEnd] using empty
  have first : isBlank c = false := head c (by simp)
  simp [all c (by simp)] at first

/-- Blanks alone trim to nothing. -/
theorem trim_of_blank {gap : Text} (blank : IsBlankText gap) : trim gap = [] := by
  have same := trimStart_append blank []
  rw [List.append_nil] at same
  rw [trim, same]
  rfl

/-- Blanks before a text are trimmed away. -/
theorem trim_append_left {gap : Text} (blank : IsBlankText gap) (text : Text) :
    trim (gap ++ text) = trim text := by
  rw [trim, trimStart_append blank, trim]

/-- Blanks after a text are trimmed away. -/
theorem trim_append_right {gap : Text} (blank : IsBlankText gap) (text : Text) :
    trim (text ++ gap) = trim text := by
  rw [trim, trimStart, List.dropWhile_append]
  split
  · -- A text of blanks only trims to nothing on both sides.
    rename_i empty
    have nothing : trimStart text = [] := List.isEmpty_iff.mp empty
    have gone := trim_of_blank blank
    rw [trim, trimStart] at gone
    rw [gone, trim, nothing]
    rfl
  · rw [trimEnd_append blank, trim, trimStart]

/-- Blanks at the start are removed once. -/
theorem trim_trimStart (text : Text) : trim (trimStart text) = trim text := by
  rw [trim, trimStart_of_head (head_trimStart text), trim]

/-- Only blanks are removed at the end. -/
theorem exists_trimEnd_append (text : Text) :
    ∃ gap, IsBlankText gap ∧ text = trimEnd text ++ gap := by
  refine ⟨(text.reverse.takeWhile isBlank).reverse, fun c member =>
    List.mem_takeWhile_imp (List.mem_reverse.mp member), ?_⟩
  rw [trimEnd, ← List.reverse_append, List.takeWhile_append_dropWhile, List.reverse_reverse]

/-- Blanks at the end are removed once. -/
theorem trim_trimEnd (text : Text) : trim (trimEnd text) = trim text := by
  obtain ⟨gap, blank, whole⟩ := exists_trimEnd_append text
  rw [← trim_append_right blank, ← whole]

/-- Trimming loses only blanks. -/
theorem filter_trim {kind : Char → Bool} (visible : ∀ c, isBlank c = true → kind c = false)
    (text : Text) : (trim text).filter kind = text.filter kind := by
  -- What is dropped is blank and so none of the kind.
  have dropped (text : Text) : (text.dropWhile isBlank).filter kind = text.filter kind := by
    have gone : (text.takeWhile isBlank).filter kind = [] :=
      List.filter_eq_nil_iff.mpr fun c member => by
        simp [visible c (List.mem_takeWhile_imp member)]
    have whole := congrArg (List.filter kind)
      (List.takeWhile_append_dropWhile (p := isBlank) (l := text))
    rwa [List.filter_append, gone, List.nil_append] at whole
  rw [trim, trimEnd, List.filter_reverse, dropped, List.filter_reverse, List.reverse_reverse,
    trimStart, dropped]

end Text

end IdlScout
