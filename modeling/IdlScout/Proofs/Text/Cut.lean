import IdlScout.Text.Basic
import Mathlib.Data.List.Infix

/-! Cuts, breaks and replacements go piece by piece over a text with a known mark in it. -/

namespace IdlScout
namespace Text

/-- None of the signs is in the text. -/
def Lacks (text signs : Text) : Prop :=
  ∀ c ∈ text, c ∉ signs

instance (text signs : Text) : Decidable (Lacks text signs) :=
  List.decidableBAll (fun c => c ∉ signs) text

/-- A text lacks signs if both its parts do. -/
theorem lacks_append {before after signs : Text} :
    Lacks (before ++ after) signs ↔ Lacks before signs ∧ Lacks after signs :=
  List.forall_mem_append

/-- A text lacks signs if its first character is none of them and the others lack them. -/
theorem lacks_cons {c : Char} {rest signs : Text} :
    Lacks (c :: rest) signs ↔ c ∉ signs ∧ Lacks rest signs :=
  List.forall_mem_cons

/-- Every text has at least one piece. -/
theorem cut_ne_nil (mark : Char) (text : Text) : cut mark text ≠ [] := by
  cases text with
  | nil => simp [cut]
  | cons c rest =>
    unfold cut
    -- A mark adds a piece, and another character goes into the first one.
    split
    · simp
    · split <;> simp

/-- A character that is no mark joins the first piece after it. -/
theorem cut_cons {mark c : Char} (other : c ≠ mark) {text piece : Text} {more : List Text}
    (pieces : cut mark text = piece :: more) : cut mark (c :: text) = (c :: piece) :: more := by
  simp [cut, other, pieces]

/-- The pieces of a text are those that the marks split it into. -/
theorem cut_eq_splitOn (mark : Char) (text : Text) : cut mark text = text.splitOn mark := by
  induction text with
  | nil => rfl
  | cons c rest ih =>
    -- Core splits by modifying the first piece, which is there in both.
    rw [List.splitOn] at ih ⊢
    rw [List.splitOnP_cons_eq_if_modifyHead, ← ih]
    by_cases same : c = mark
    · simp [cut, same]
    · obtain ⟨piece, more, pieces⟩ := List.exists_cons_of_ne_nil (cut_ne_nil mark rest)
      simp [cut_cons same pieces, pieces, same]

/-- A text without the mark joins the first piece after it. -/
theorem cut_append {mark : Char} {before : Text} (absent : mark ∉ before) {text piece : Text}
    {more : List Text} (pieces : cut mark text = piece :: more) :
    cut mark (before ++ text) = (before ++ piece) :: more := by
  induction before with
  | nil => exact pieces
  | cons c rest ih =>
    simp only [List.mem_cons, not_or] at absent
    exact cut_cons (Ne.symm absent.1) (ih absent.2)

/-- A text without the mark is one piece. -/
theorem cut_of_not_mem {mark : Char} {text : Text} (absent : mark ∉ text) :
    cut mark text = [text] := by
  have alone : cut mark [] = [[]] := rfl
  simpa using cut_append absent alone

/-- A mark ends the pieces before it and starts those after it. -/
theorem cut_append_mark (mark : Char) (before after : Text) :
    cut mark (before ++ mark :: after) = cut mark before ++ cut mark after := by
  induction before with
  | nil => simp [cut]
  | cons c rest ih =>
    -- A mark of the text before is a cut on both sides of the equation.
    by_cases same : c = mark
    · simp [cut, same, ih]
    · obtain ⟨piece, more, pieces⟩ := List.exists_cons_of_ne_nil (cut_ne_nil mark rest)
      rw [pieces] at ih
      simp only [List.cons_append] at ih ⊢
      rw [cut_cons same ih, cut_cons same pieces, List.cons_append]

/-- Pieces are written character by character as the text is, if only the mark is written with the
mark, and as itself. -/
theorem cut_flatMap {mark : Char} {write : Char → Text} (kept : write mark = [mark])
    (other : ∀ c, mark ∈ write c → c = mark) (text : Text) :
    cut mark (text.flatMap write) = (cut mark text).map (·.flatMap write) := by
  induction text with
  | nil => rfl
  | cons c rest ih =>
    rw [List.flatMap_cons]
    by_cases same : c = mark
    · -- The mark that is written ends an empty piece, as the one that was there does.
      rw [same, kept, List.singleton_append]
      simpa [cut] using ih
    · -- What is written for another character joins the first piece after it.
      obtain ⟨piece, more, pieces⟩ := List.exists_cons_of_ne_nil (cut_ne_nil mark rest)
      rw [pieces, List.map_cons] at ih
      rw [cut_append (fun member => same (other c member)) ih, cut_cons same pieces, List.map_cons,
        List.flatMap_cons]

/-- Pieces are without the mark, and have no character that the text does not have. -/
theorem of_mem_cut {mark : Char} {text piece : Text} (listed : piece ∈ cut mark text) :
    mark ∉ piece ∧ ∀ c ∈ piece, c ∈ text := by
  induction text generalizing piece with
  | nil =>
    obtain rfl : piece = [] := by simpa [cut] using listed
    simp
  | cons c rest ih =>
    -- A mark stands before an empty piece, and any other character in the first one.
    by_cases same : c = mark
    · have split : piece = [] ∨ piece ∈ cut mark rest := by simpa [cut, same] using listed
      rcases split with rfl | later
      · simp
      · exact ⟨(ih later).1, fun d member => List.mem_cons_of_mem _ ((ih later).2 d member)⟩
    · obtain ⟨first, more, pieces⟩ := List.exists_cons_of_ne_nil (cut_ne_nil mark rest)
      rw [cut_cons same pieces, List.mem_cons] at listed
      rw [pieces] at ih
      rcases listed with rfl | later
      · obtain ⟨absent, kept⟩ := ih (List.mem_cons_self)
        refine ⟨by simp [Ne.symm same, absent], fun d member => ?_⟩
        rcases List.mem_cons.mp member with rfl | inFirst
        · exact List.mem_cons_self
        · exact List.mem_cons_of_mem _ (kept d inFirst)
      · obtain ⟨absent, kept⟩ := ih (List.mem_cons_of_mem _ later)
        exact ⟨absent, fun d member => List.mem_cons_of_mem _ (kept d member)⟩

/-- A last character that is the ending goes. -/
theorem dropSuffix_concat (c : Char) (before : Text) : dropSuffix [c] (before ++ [c]) = before := by
  simp [dropSuffix, stripSuffix?, List.isSuffixOf?, List.isPrefixOf?]

/-- A text with another last character keeps it. -/
theorem dropSuffix_of_last {c : Char} {text : Text} (other : text.getLast? ≠ some c) :
    dropSuffix [c] text = text := by
  -- Only the last character is compared.
  cases shape : text.getLast? with
  | none =>
    obtain rfl : text = [] := List.getLast?_eq_none_iff.mp shape
    rfl
  | some last =>
    obtain ⟨init, rfl⟩ := List.getLast?_eq_some_iff.mp shape
    have different : last ≠ c := by simpa using other
    simp [dropSuffix, stripSuffix?, List.isSuffixOf?, List.isPrefixOf?, Ne.symm different]

/-- A text has a last piece at every mark. -/
theorem exists_pieces (mark : Char) (text : Text) :
    ∃ ended last, cut mark text = ended ++ [last] :=
  ⟨_, _, (List.dropLast_append_getLast (cut_ne_nil mark text)).symm⟩

/-- The pieces that line feeds end are lines, without carriage returns at their ends; the last piece
is a line only if something is on it, and is kept as it is. -/
theorem lines_of_pieces {text last : Text} {ended : List Text}
    (pieces : cut '\n' text = ended ++ [last]) :
    lines text = ended.map (dropSuffix ['\r']) ++ if last.isEmpty then [] else [last] := by
  rw [lines, pieces, List.dropLast_concat, List.getLast?_concat]
  cases last <;> simp

/-- A line feed ends the line before it, which keeps all its characters unless the last is a
carriage return. -/
theorem lines_append_feed {line : Text} (single : '\n' ∉ line) (ends : line.getLast? ≠ some '\r')
    (text : Text) : lines (line ++ '\n' :: text) = line :: lines text := by
  obtain ⟨piece, more, pieces⟩ := List.exists_cons_of_ne_nil (cut_ne_nil '\n' text)
  simp only [lines, cut_append_mark, cut_of_not_mem single, pieces, List.singleton_append,
    List.dropLast_cons_cons, List.map_cons, dropSuffix_of_last ends, List.getLast?_cons_cons]
  split <;> rfl

/-- A text is broken at the first mark. -/
theorem breakAt?_append {mark : Char} {before : Text} (absent : mark ∉ before) (after : Text) :
    breakAt? mark (before ++ mark :: after) = some (before, after) := by
  -- Up to the mark no character is one.
  induction before with
  | nil => simp [breakAt?]
  | cons c rest ih =>
    simp only [List.mem_cons, not_or] at absent
    simp [breakAt?, Ne.symm absent.1, ih absent.2]

/-- The parts of a text broken at its first mark are before and after that mark. -/
theorem of_breakAt? {mark : Char} {text before after : Text}
    (found : breakAt? mark text = some (before, after)) :
    mark ∉ before ∧ text = before ++ mark :: after := by
  induction text generalizing before with
  | nil => simp [breakAt?] at found
  | cons c rest ih =>
    rw [breakAt?] at found
    -- The mark stands here, or further on.
    split at found
    · rename_i same
      obtain ⟨rfl, rfl⟩ : [] = before ∧ rest = after := by simpa using found
      simp [same]
    · rename_i other
      obtain ⟨⟨inner, last⟩, later, same⟩ := Option.map_eq_some_iff.mp found
      obtain ⟨rfl, rfl⟩ : c :: inner = before ∧ last = after := by simpa using same
      obtain ⟨absent, rfl⟩ := ih later
      exact ⟨by simp [absent, Ne.symm other], rfl⟩

/-- A text is broken unless the mark is not in it. -/
theorem breakAt?_eq_none_iff {mark : Char} {text : Text} :
    breakAt? mark text = none ↔ mark ∉ text := by
  induction text with
  | nil => simp [breakAt?]
  | cons c rest ih =>
    by_cases same : c = mark
    · simp [breakAt?, same]
    · simp [breakAt?, same, Ne.symm same, ih]

/-- A text without an ending is a beginning of it. -/
theorem dropSuffix_isPrefix (ending text : Text) : dropSuffix ending text <+: text := by
  unfold dropSuffix stripSuffix?
  -- Core looks for the ending from behind, in the text read backwards.
  cases found : ending.isSuffixOf? text with
  | none => exact List.prefix_rfl
  | some kept =>
    obtain ⟨back, stripped, rfl⟩ := Option.map_eq_some_iff.mp found
    have whole := congrArg List.reverse (List.isPrefixOf?_eq_some_iff_append_eq.mp stripped)
    exact ⟨ending, by simpa using whole⟩

/-- The parts of a text broken at its last mark are before and after that mark. -/
theorem of_breakLast? {isMark : Char → Bool} {text before after : Text}
    (found : breakLast? isMark text = some (before, after)) :
    ∃ c, isMark c = true ∧ text = before ++ c :: after := by
  induction text generalizing before with
  | nil => simp [breakLast?] at found
  | cons c rest ih =>
    -- Whether a later mark exists is asked before this character is looked at.
    rw [breakLast?] at found
    cases further : breakLast? isMark rest with
    | some parts =>
      -- The last mark is further on.
      obtain ⟨inner, last⟩ := parts
      obtain ⟨rfl, rfl⟩ : c :: inner = before ∧ last = after := by simpa [further] using found
      obtain ⟨d, mark, rfl⟩ := ih further
      exact ⟨d, mark, rfl⟩
    | none =>
      obtain ⟨mark, rfl, rfl⟩ : isMark c = true ∧ [] = before ∧ rest = after := by
        simpa [further] using found
      exact ⟨c, mark, rfl⟩

/-- A text without marks is not broken at its last one. -/
theorem breakLast?_eq_none {isMark : Char → Bool} {text : Text}
    (unmarked : ∀ c ∈ text, isMark c = false) : breakLast? isMark text = none := by
  -- No mark is found further on, and none stands here.
  induction text with
  | nil => rfl
  | cons c rest ih =>
    obtain ⟨first, others⟩ := List.forall_mem_cons.mp unmarked
    simp [breakLast?, first, ih others]

/-- A text is broken at a mark that no other follows. -/
theorem breakLast?_append {isMark : Char → Bool} {c : Char} (mark : isMark c = true)
    (before : Text) {after : Text} (unmarked : ∀ d ∈ after, isMark d = false) :
    breakLast? isMark (before ++ c :: after) = some (before, after) := by
  induction before with
  | nil => simp [breakLast?, breakLast?_eq_none unmarked, mark]
  | cons d rest ih => simp [breakLast?, ih]

/-- The parts of a text broken at a mark are before and after that mark. -/
theorem of_breakOn? {mark text before after : Text}
    (found : breakOn? mark text = some (before, after)) : text = before ++ mark ++ after := by
  induction text generalizing before with
  | nil =>
    obtain ⟨rfl, rfl, rfl⟩ : mark = [] ∧ [] = before ∧ [] = after := by
      simpa [breakOn?] using found
    rfl
  | cons c rest ih =>
    rw [breakOn?] at found
    -- The mark starts here, or the search goes on.
    split at found
    · rename_i starts
      obtain ⟨tail, whole⟩ := List.isPrefixOf_iff_prefix.mp starts
      obtain ⟨rfl, rfl⟩ : [] = before ∧ (c :: rest).drop mark.length = after := by
        simpa using found
      simp [← whole]
    · obtain ⟨⟨inner, last⟩, later, same⟩ := Option.map_eq_some_iff.mp found
      obtain ⟨rfl, rfl⟩ : c :: inner = before ∧ last = after := by simpa using same
      rw [ih later]
      rfl

/-- A text is broken where the mark is, if nothing before it can start the mark. -/
theorem breakOn?_append {first : Char} {before : Text} (absent : first ∉ before)
    (mark after : Text) :
    breakOn? (first :: mark) (before ++ first :: mark ++ after) = some (before, after) := by
  induction before with
  | nil => simp [breakOn?]
  -- The mark's first character is not there before it, so it starts nowhere earlier.
  | cons c rest ih =>
    simp only [List.mem_cons, not_or] at absent
    have later := ih absent.2
    simp only [List.append_assoc, List.cons_append] at later ⊢
    simp [breakOn?, absent.1, later]

/-- Passing over characters is dropping them. -/
theorem cutAllFrom_eq_drop (mark : Text) (skip : Nat) (text : Text) :
    cutAllFrom mark skip text = cutAllFrom mark 0 (text.drop skip) := by
  induction text generalizing skip with
  | nil => cases skip <;> simp [cutAllFrom]
  | cons c rest ih =>
    -- One character less has to be passed over.
    cases skip with
    | zero => rfl
    | succ skip => simp [cutAllFrom, ih]

/-- Every text has at least one piece, whatever the mark. -/
theorem cutAll_ne_nil (mark text : Text) : cutAll mark text ≠ [] := by
  cases text with
  | nil => simp [cutAll, cutAllFrom]
  | cons c rest =>
    rw [cutAll, cutAllFrom]
    -- A mark adds a piece here too, and another character goes into the first one.
    split
    · simp
    · split <;> simp

/-- A mark ends the empty piece before it. -/
theorem cutAll_mark_append (first : Char) (mark text : Text) :
    cutAll (first :: mark) (first :: mark ++ text) = [] :: cutAll (first :: mark) text := by
  have starts : (first :: mark).isPrefixOf (first :: (mark ++ text)) = true := by simp
  rw [cutAll, List.cons_append, cutAllFrom, if_pos starts, cutAllFrom_eq_drop]
  simp [cutAll]

/-- A character where no mark starts joins the first piece after it. -/
theorem cutAll_cons {mark : Text} {c : Char} {text piece : Text} {more : List Text}
    (absent : ¬ mark <+: c :: text) (pieces : cutAll mark text = piece :: more) :
    cutAll mark (c :: text) = (c :: piece) :: more := by
  have starts : ¬ mark.isPrefixOf (c :: text) = true := by simpa using absent
  rw [cutAll] at pieces
  rw [cutAll, cutAllFrom, if_neg starts, pieces]

/-- A mark that starts in a text without its first character starts behind it. -/
theorem not_prefix_of_not_mem {first c : Char} (other : first ≠ c) (mark text : Text) :
    ¬ first :: mark <+: c :: text := by
  simp [other]

/-- A text that cannot start the mark is the piece before it. -/
theorem cutAll_append_mark {first : Char} {before : Text} (absent : first ∉ before)
    (mark after : Text) :
    cutAll (first :: mark) (before ++ (first :: mark ++ after)) =
      before :: cutAll (first :: mark) after := by
  induction before with
  -- No mark starts where its first character is not.
  | nil => exact cutAll_mark_append first mark after
  | cons c rest ih =>
    simp only [List.mem_cons, not_or] at absent
    exact cutAll_cons (not_prefix_of_not_mem absent.1 _ _) (ih absent.2)

/-- A text without the mark is one piece. -/
theorem cutAll_of_not_infix {mark text : Text} (absent : ¬ mark <:+: text) :
    cutAll mark text = [text] := by
  induction text with
  | nil => rfl
  | cons c rest ih =>
    -- The mark neither starts here nor further on.
    rw [List.infix_cons_iff, not_or] at absent
    exact cutAll_cons absent.1 (ih absent.2)

/-- A text is empty, starts with the mark, or starts with a character where no mark starts. -/
theorem mark_induction (first : Char) (mark : Text) {motive : Text → Prop} (nil : motive [])
    (found : ∀ rest, motive rest → motive (first :: mark ++ rest))
    (other : ∀ c rest, ¬ first :: mark <+: c :: rest → motive rest → motive (c :: rest))
    (text : Text) : motive text := by
  -- A mark may be long, so the induction is on the length.
  induction size : text.length using Nat.strongRecOn generalizing text with
  | ind bound ih =>
    cases text with
    | nil => exact nil
    | cons c rest =>
      by_cases starts : first :: mark <+: c :: rest
      · obtain ⟨tail, whole⟩ := starts
        have shorter : tail.length < bound := by
          rw [← size, ← whole, List.length_append, List.length_cons]
          omega
        rw [← whole]
        exact found tail (ih tail.length shorter tail rfl)
      · have shorter : rest.length < bound := by simp [← size]
        exact other c rest starts (ih rest.length shorter rest rfl)

/-- A text with the mark in it has more than one piece. -/
theorem one_lt_length_cutAll {first : Char} {mark text : Text}
    (inside : first :: mark <:+: text) : 1 < (cutAll (first :: mark) text).length := by
  induction text using mark_induction first mark with
  | nil => simp at inside
  | found rest ih =>
    -- Before the mark there is a piece, and at least one more comes after it.
    have others := List.length_pos_of_ne_nil (cutAll_ne_nil (first :: mark) rest)
    rw [cutAll_mark_append, List.length_cons]
    omega
  | other c rest absent ih =>
    obtain ⟨piece, more, pieces⟩ := List.exists_cons_of_ne_nil (cutAll_ne_nil (first :: mark) rest)
    have later := ih ((List.infix_cons_iff.mp inside).resolve_left absent)
    rw [pieces] at later
    rw [cutAll_cons absent pieces]
    exact later

/-- A text that occurs in another is part of it. -/
theorem infix_of_occursIn {part text : Text} (occurs : occursIn part text = true) :
    part <:+: text := by
  obtain ⟨⟨before, after⟩, found⟩ := Option.isSome_iff_exists.mp occurs
  exact ⟨before, after, (of_breakOn? found).symm⟩

/-- A text occurs in another if it is part of it. -/
theorem occursIn_of_infix {part text : Text} (inside : part <:+: text) :
    occursIn part text = true := by
  unfold occursIn
  induction text with
  | nil => simp [breakOn?, List.infix_nil.mp inside]
  | cons c rest ih =>
    -- The part starts here, or lies in what follows.
    rw [breakOn?]
    split
    · rfl
    · rename_i absent
      rcases List.infix_cons_iff.mp inside with starts | later
      · exact absurd (List.isPrefixOf_iff_prefix.mpr starts) absent
      · rw [Option.isSome_map]
        exact ih later

/-- The first character of joined pieces is that of the first piece. -/
theorem join_cons_cons (separator : Text) (c : Char) (piece : Text) (more : List Text) :
    join separator ((c :: piece) :: more) = c :: join separator (piece :: more) := by
  cases more <;> simp [join]

/-- Pieces are joined one after the other. -/
theorem join_cons (separator piece : Text) {more : List Text} (nonempty : more ≠ []) :
    join separator (piece :: more) = piece ++ separator ++ join separator more := by
  obtain ⟨next, rest, rfl⟩ := List.exists_cons_of_ne_nil nonempty
  simp [join]

/-- Every piece but the first stands behind a separator. -/
theorem join_eq_flatMap (separator piece : Text) (more : List Text) :
    join separator (piece :: more) = piece ++ more.flatMap (separator ++ ·) := by
  -- A separator stands between any two neighbours.
  induction more generalizing piece with
  | nil => simp [join]
  | cons next rest ih =>
    rw [join_cons _ _ (List.cons_ne_nil _ _), ih, List.flatMap_cons, List.append_assoc,
      List.append_assoc]

/-- Pieces are joined in two parts. -/
theorem join_append (separator : Text) {before after : List Text} (some : before ≠ [])
    (others : after ≠ []) :
    join separator (before ++ after) =
      join separator before ++ separator ++ join separator after := by
  induction before with
  | nil => exact absurd rfl some
  | cons piece rest ih =>
    -- The last of the first pieces is followed by the separator alone.
    by_cases last : rest = []
    · subst last
      exact join_cons _ _ others
    · have more : rest ++ after ≠ [] := by simp [last]
      rw [List.cons_append, join_cons _ _ more, join_cons _ _ last, ih last]
      simp only [List.append_assoc]

/-- Joined pieces have no character but theirs and the separator's. -/
theorem mem_of_mem_join {separator : Text} {pieces : List Text} {c : Char}
    (member : c ∈ join separator pieces) : c ∈ separator ∨ ∃ piece ∈ pieces, c ∈ piece := by
  induction pieces with
  | nil => simp [join] at member
  | cons piece rest ih =>
    -- Only between two pieces is there a separator.
    cases rest with
    | nil => exact .inr ⟨piece, by simp, by simpa [join] using member⟩
    | cons next more =>
      simp only [join, List.mem_append] at member ih
      rcases member with (inside | between) | after
      · exact .inr ⟨piece, by simp, inside⟩
      · exact .inl between
      · exact (ih after).imp_right fun ⟨other, listed, found⟩ => ⟨other, by simp [listed], found⟩

/-- Joined pieces have all characters of each of them. -/
theorem mem_join_of_mem {separator piece : Text} {pieces : List Text} {c : Char}
    (listed : piece ∈ pieces) (member : c ∈ piece) : c ∈ join separator pieces := by
  cases pieces with
  | nil => cases listed
  | cons first rest =>
    rw [join_eq_flatMap, List.mem_append, List.mem_flatMap]
    -- A piece is the first one, or stands behind a separator.
    rcases List.mem_cons.mp listed with rfl | later
    · exact .inl member
    · exact .inr ⟨piece, later, List.mem_append_right _ member⟩

/-- Pieces without a mark are what the text that they are joined to is cut into. -/
theorem cut_join {mark : Char} {pieces : List Text} (nonempty : pieces ≠ [])
    (plain : ∀ piece ∈ pieces, mark ∉ piece) : cut mark (join [mark] pieces) = pieces := by
  induction pieces with
  | nil => exact absurd rfl nonempty
  | cons piece rest ih =>
    have first := plain piece (by simp)
    -- The mark between two pieces is where the text is cut.
    by_cases last : rest = []
    · subst last
      exact cut_of_not_mem first
    · have later := ih last fun other member => plain other (by simp [member])
      rw [join_cons _ _ last, List.append_assoc, List.singleton_append, cut_append_mark, later,
        cut_of_not_mem first, List.singleton_append]

/-- The pieces that a text is cut into are joined to it again. -/
theorem join_cut (mark : Char) (text : Text) : join [mark] (cut mark text) = text := by
  induction text with
  | nil => rfl
  | cons c rest ih =>
    -- A mark joins what it cut apart.
    by_cases same : c = mark
    · subst same
      rw [cut, if_pos rfl, join_cons _ _ (cut_ne_nil _ _), ih]
      rfl
    · obtain ⟨piece, more, pieces⟩ := List.exists_cons_of_ne_nil (cut_ne_nil mark rest)
      rw [cut_cons same pieces, join_cons_cons, ← pieces, ih]

/-- Cutting loses only marks. -/
theorem filter_flatten_cut {kind : Char → Bool} {mark : Char} (marked : kind mark = false)
    (text : Text) : (cut mark text).flatten.filter kind = text.filter kind := by
  induction text with
  | nil => rfl
  | cons c rest ih =>
    -- A mark is dropped by the filter, and every other character stands where it did.
    by_cases same : c = mark
    · subst same
      simp [cut, ih, marked]
    · obtain ⟨piece, more, pieces⟩ := List.exists_cons_of_ne_nil (cut_ne_nil mark rest)
      rw [pieces] at ih
      rw [cut_cons same pieces, List.flatten_cons, List.cons_append, List.filter_cons,
        List.filter_cons, ← List.flatten_cons, ih]

/-- A text without the mark joins the last piece before it. -/
theorem cut_append_tail {mark : Char} {tail : Text} (absent : mark ∉ tail) {text last : Text}
    {front : List Text} (pieces : cut mark text = front ++ [last]) :
    cut mark (text ++ tail) = front ++ [last ++ tail] := by
  induction text generalizing front last with
  | nil =>
    obtain ⟨rfl, rfl⟩ : front = [] ∧ last = [] := by
      have single : [] ++ [[]] = front ++ [last] := pieces
      obtain ⟨before, after⟩ := List.append_inj' single rfl
      exact ⟨before.symm, by simpa using after.symm⟩
    exact cut_of_not_mem absent
  | cons c rest ih =>
    by_cases same : c = mark
    · subst same
      rw [cut, if_pos rfl] at pieces
      rw [List.cons_append, cut, if_pos rfl]
      -- The text before is not at its end, so its last piece is one of what follows.
      cases front with
      | nil => exact absurd (List.cons.inj pieces).2 (cut_ne_nil _ _)
      | cons first front =>
        obtain ⟨rfl, later⟩ := List.cons.inj pieces
        rw [ih later, List.cons_append]
    · obtain ⟨piece, more, shape⟩ := List.exists_cons_of_ne_nil (cut_ne_nil mark rest)
      rw [cut_cons same shape] at pieces
      -- The last piece is the one that this character goes to, or a later one.
      cases front with
      | nil =>
        obtain ⟨rfl, rfl⟩ := List.cons.inj pieces
        have joined : cut mark (rest ++ tail) = [] ++ [piece ++ tail] := ih shape
        exact cut_cons same joined
      | cons first front =>
        obtain ⟨rfl, rfl⟩ := List.cons.inj pieces
        have joined : cut mark (rest ++ tail) = (piece :: front) ++ [last ++ tail] := ih shape
        exact cut_cons same joined

/-- The separator is in a text joined from more than one piece. -/
theorem mem_join_of_separator {separator : Text} {c : Char} (member : c ∈ separator)
    {pieces : List Text} (several : 1 < pieces.length) : c ∈ join separator pieces := by
  match pieces, several with
  | piece :: next :: more, _ => simp [join, member]

/-- A mark gives way to the other text. -/
theorem replace_mark_append (first : Char) (mark new text : Text) :
    replace (first :: mark) new (first :: mark ++ text) =
      new ++ replace (first :: mark) new text := by
  rw [replace, cutAll_mark_append, join_cons _ _ (cutAll_ne_nil _ _), List.nil_append, replace]

/-- A character where no mark starts stays. -/
theorem replace_cons {old : Text} {c : Char} {text : Text} (absent : ¬ old <+: c :: text)
    (new : Text) : replace old new (c :: text) = c :: replace old new text := by
  obtain ⟨piece, more, pieces⟩ := List.exists_cons_of_ne_nil (cutAll_ne_nil old text)
  rw [replace, cutAll_cons absent pieces, join_cons_cons, replace, pieces]

/-- The pieces between the marks are joined by them to the text again. -/
theorem join_cutAll (first : Char) (mark text : Text) :
    join (first :: mark) (cutAll (first :: mark) text) = text := by
  -- Joining with the mark puts back what cutting has taken out.
  change replace (first :: mark) (first :: mark) text = text
  induction text using mark_induction first mark with
  | nil => rfl
  | found rest ih => rw [replace_mark_append, ih]
  | other c rest absent ih => rw [replace_cons absent, ih]

/-- A text without the mark stays. -/
theorem replace_of_not_infix {old text : Text} (absent : ¬ old <:+: text) (new : Text) :
    replace old new text = text := by
  rw [replace, cutAll_of_not_infix absent, join]

/-- A text that lacks a character of the mark stays. -/
theorem replace_of_not_mem {old text : Text} {c : Char} (needed : c ∈ old) (absent : c ∉ text)
    (new : Text) : replace old new text = text :=
  replace_of_not_infix (fun inside => absent (inside.subset needed)) new

/-- A text without the mark's first character stays, whatever follows it. -/
theorem replace_append {first : Char} {before : Text} (absent : first ∉ before)
    (mark new after : Text) : replace (first :: mark) new (before ++ after) =
      before ++ replace (first :: mark) new after := by
  induction before with
  | nil => rfl
  -- No mark starts before, so nothing is replaced there.
  | cons c rest ih =>
    simp only [List.mem_cons, not_or] at absent
    rw [List.cons_append, replace_cons (not_prefix_of_not_mem absent.1 _ _), ih absent.2,
      List.cons_append]

/-- Characters that neither the mark nor what replaces it has stay in their order. -/
theorem filter_replace {kind : Char → Bool} {first : Char} {mark new : Text}
    (inMark : (first :: mark).filter kind = []) (inNew : new.filter kind = [])
    (text : Text) : (replace (first :: mark) new text).filter kind = text.filter kind := by
  induction text using mark_induction first mark with
  | nil => rfl
  | found rest ih =>
    -- The mark and what takes its place have no such character.
    rw [replace_mark_append, List.filter_append, List.filter_append, inMark, inNew, ih]
  | other c rest absent ih => rw [replace_cons absent, List.filter_cons, List.filter_cons, ih]

/-- A mark does not reach over a character that it does not hold. -/
theorem prefix_of_prefix_append_cons {mark : Text} {c : Char} (outside : c ∉ mark)
    (before : Text) {after : Text}
    (starts : mark <+: before ++ c :: after) : mark <+: before := by
  -- A mark that is longer than the text before would hold the character.
  rcases Nat.lt_or_ge before.length mark.length with long | short
  · have reach : before ++ [c] <+: mark :=
      List.prefix_of_prefix_length_le ⟨after, by simp⟩ starts (by simp; omega)
    exact absurd (reach.subset (by simp)) outside
  · exact List.prefix_of_prefix_length_le starts ⟨c :: after, rfl⟩ short

/-- A text starts with a mark and the character behind it if the mark is all before the first such
character. -/
theorem concat_prefix_iff {mark before after : Text} {c : Char} (outside : c ∉ mark)
    (absent : c ∉ before) : mark ++ [c] <+: before ++ c :: after ↔ mark = before := by
  refine ⟨fun ⟨tail, whole⟩ => ?_, fun same => ⟨after, by simp [same]⟩⟩
  -- Both texts are broken at their first such character.
  have broken := breakAt?_append absent after
  rw [← whole, List.append_assoc, List.singleton_append, breakAt?_append outside] at broken
  exact (Prod.mk.inj (Option.some.inj broken)).1

/-- A text occurs on one side of a character that it does not hold. -/
theorem infix_of_infix_append_cons {part before after : Text} {c : Char} (outside : c ∉ part)
    (inside : part <:+: before ++ c :: after) : part <:+: before ∨ part <:+: after := by
  rcases List.infix_append_iff.mp inside with left | right | ⟨left, right, rfl, ends, starts⟩
  · exact .inl left
  · rcases List.infix_cons_iff.mp right with starts | later
    · have nothing : part <+: [] := prefix_of_prefix_append_cons outside [] starts
      exact .inl (nothing.isInfix.trans (List.nil_infix))
    · exact .inr later
  · -- What reaches over the character would hold it.
    simp only [List.mem_append, not_or] at outside
    have nothing : right <+: [] :=
      prefix_of_prefix_append_cons outside.2 [] starts
    rw [List.prefix_nil.mp nothing, List.append_nil]
    exact .inl ends.isInfix

/-- A part stands on one side of a character that it does not hold. -/
theorem of_append_cons_eq {front back before part after : Text} {c : Char} (outside : c ∉ part)
    (whole : front ++ c :: back = before ++ part ++ after) :
    (∃ gap, front = before ++ part ++ gap ∧ after = gap ++ c :: back) ∨
      ∃ gap, before = front ++ c :: gap ∧ back = gap ++ part ++ after := by
  -- Both ways to take the whole apart are compared by where they meet.
  rcases List.append_eq_append_iff.mp whole with ⟨gap, left, right⟩ | ⟨gap, left, right⟩
  · cases gap with
    | nil => exact .inl ⟨[], by simpa using left.symm, by simpa using right.symm⟩
    | cons d gap =>
      obtain ⟨rfl, rfl⟩ := List.cons.inj right
      -- The character is not in the part, so it is in what comes before.
      rcases List.append_eq_append_iff.mp left with ⟨inner, -, inside⟩ | ⟨inner, longer, behind⟩
      · exact absurd (by simp [inside]) outside
      · cases inner with
        | nil =>
          obtain rfl : c :: gap = part := behind
          exact absurd (by simp) outside
        | cons e inner =>
          obtain ⟨rfl, rfl⟩ := List.cons.inj behind
          exact .inr ⟨inner, longer, rfl⟩
  · exact .inl ⟨gap, left, right⟩

/-- Replacing goes on behind a character that the mark does not hold, as if the text started
there. -/
theorem replace_append_cons {first c : Char} {mark : Text} (outside : c ∉ first :: mark)
    (new before after : Text) :
    replace (first :: mark) new (before ++ c :: after) =
      replace (first :: mark) new before ++ c :: replace (first :: mark) new after := by
  induction before using mark_induction first mark with
  | nil =>
    have absent : ¬ first :: mark <+: [] ++ c :: after := fun starts => by
      simpa using prefix_of_prefix_append_cons outside [] starts
    rw [List.nil_append] at absent ⊢
    have nothing : replace (first :: mark) new [] = [] := rfl
    rw [replace_cons absent, nothing, List.nil_append]
  | found rest ih =>
    rw [List.append_assoc, replace_mark_append, replace_mark_append, ih, List.append_assoc]
  | other d rest absent ih =>
    -- A mark that starts before the character ends before it.
    have still : ¬ first :: mark <+: d :: (rest ++ c :: after) := fun starts =>
      absent (prefix_of_prefix_append_cons outside (d :: rest) starts)
    rw [List.cons_append, replace_cons still, replace_cons absent, ih, List.cons_append]

/-- Nothing is in a text after a replacement that was in neither text before. -/
theorem mem_of_mem_replace {first c : Char} {mark new text : Text}
    (member : c ∈ replace (first :: mark) new text) : c ∈ text ∨ c ∈ new := by
  induction text using mark_induction first mark with
  | nil => simp [replace, cutAll, cutAllFrom, join] at member
  | found rest ih =>
    rw [replace_mark_append, List.mem_append] at member
    -- What comes after a replacement is in the new text or in the rest.
    rcases member with inNew | inRest
    · exact .inr inNew
    · exact (ih inRest).imp_left fun found => List.mem_append_right _ found
  | other d rest absent ih =>
    rw [replace_cons absent, List.mem_cons] at member
    rcases member with here | inRest
    · exact .inl (by simp [here])
    · exact (ih inRest).imp_left fun found => List.mem_cons_of_mem _ found

end Text
end IdlScout
