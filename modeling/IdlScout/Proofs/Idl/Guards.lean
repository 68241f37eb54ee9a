import IdlScout.Idl.Cleanup
import IdlScout.Proofs.Text.Cut
import IdlScout.Proofs.Text.Trim

/-! Guards of inclusions: lines whose inclusions got their guards need no others. -/

namespace IdlScout
namespace Cleanup

/-- A line with something on it and no blank at its ends. -/
structure IsLine (line : Text) : Prop where
  nonempty : line ≠ []
  trimmed : IsTrimmed line
  single : '\n' ∉ line

/-- What a line is to the guards of inclusions. -/
inductive GuardSign where
  | opens
  | closes
  /-- It includes a path. -/
  | includes
  deriving Repr, DecidableEq

namespace GuardSign

/-- Most lines are nothing to the guards. -/
def ofLine? (line : Text) : Option GuardSign :=
  if "#ifndef ".toList.isPrefixOf line then some .opens
  else if "#endif".toList.isPrefixOf line then some .closes
  else if "#include".toList.isPrefixOf line && (includedPath? line).isSome then some .includes
  else none

/-- Every inclusion stands in a guard; the flag says whether one is open at first. -/
def Guarded : Bool → List GuardSign → Prop
  | _, [] => True
  | _, .opens :: rest => Guarded true rest
  | _, .closes :: rest => Guarded false rest
  | inGuard, .includes :: rest => inGuard = true ∧ Guarded inGuard rest

/-- A line that does not start with a number sign is nothing to the guards. -/
theorem ofLine?_of_head {line : Text} (head : line.head? ≠ some '#') : ofLine? line = none := by
  -- All three signs begin with the number sign.
  have unmarked : ∀ mark : Text, ('#' :: mark).isPrefixOf line = false := fun mark => by
    cases line with
    | nil => rfl
    | cons c rest =>
      have other : ('#' == c) = false := by
        simpa using fun same : '#' = c => head (by rw [List.head?_cons, same])
      simp [List.isPrefixOf, other]
  have opens : "#ifndef ".toList.isPrefixOf line = false := unmarked _
  have closes : "#endif".toList.isPrefixOf line = false := unmarked _
  have includes : "#include".toList.isPrefixOf line = false := unmarked _
  simp only [ofLine?, opens, closes, includes, Bool.false_and, Bool.false_eq_true, if_false]

end GuardSign

open GuardSign

/-- Lines without blanks at their ends are found again in the text that they are printed to. -/
theorem dropEmpty_print {lines : List Text} (all : ∀ line ∈ lines, IsLine line) :
    dropEmpty (lines.flatMap fun line => line ++ ['\n']) = lines := by
  induction lines with
  | nil => rfl
  | cons line rest ih =>
    have first := all line (by simp)
    have later := ih fun other member => all other (by simp [member])
    have shape : (line :: rest).flatMap (fun line => line ++ ['\n']) =
        line ++ '\n' :: rest.flatMap fun line => line ++ ['\n'] := by simp
    -- A line has no line feed and no blank at its ends, so it is cut off and left as it is.
    rw [dropEmpty] at later
    rw [dropEmpty, shape, Text.cut_append_mark, Text.cut_of_not_mem first.single,
      List.singleton_append, List.map_cons, Text.trim_of_isTrimmed first.trimmed,
      List.filter_cons_of_pos (by simpa using first.nonempty), later]

/-- The lines of a text are trimmed, and the empty ones are gone. -/
theorem isLine_of_mem_dropEmpty {text line : Text} (member : line ∈ dropEmpty text) :
    IsLine line := by
  obtain ⟨listed, nonempty⟩ := List.mem_filter.mp member
  obtain ⟨piece, found, rfl⟩ := List.mem_map.mp listed
  have single := (Text.of_mem_cut found).1
  exact ⟨by simpa using nonempty, Text.isTrimmed_trim piece,
    fun inside => single (Text.mem_of_mem_trim inside)⟩

/-- A line opens a guard, closes one, is left as it is, or gets a guard for its path. -/
theorem guardIncludes_cons (inGuard : Bool) (line : Text) (rest : List Text) :
    (ofLine? line = some .opens ∧
      guardIncludes inGuard (line :: rest) = line :: guardIncludes true rest) ∨
    (ofLine? line = some .closes ∧
      guardIncludes inGuard (line :: rest) = line :: guardIncludes false rest) ∨
    ((ofLine? line = none ∨ ofLine? line = some .includes ∧ inGuard = true) ∧
      guardIncludes inGuard (line :: rest) = line :: guardIncludes inGuard rest) ∨
    (ofLine? line = some .includes ∧ inGuard = false ∧ ∃ path, includedPath? line = some path ∧
      guardIncludes inGuard (line :: rest) = guarded line path ++ guardIncludes false rest) := by
  -- Which prefix a line has is all that is asked of it, in this order.
  rw [guardIncludes, ofLine?]
  generalize "#ifndef ".toList.isPrefixOf line = opens
  generalize "#endif".toList.isPrefixOf line = closes
  generalize "#include".toList.isPrefixOf line = includes
  cases opens with
  | true => exact .inl ⟨rfl, rfl⟩
  | false =>
    cases closes with
    | true => exact .inr (.inl ⟨rfl, rfl⟩)
    | false =>
      cases includes with
      | false => exact .inr (.inr (.inl ⟨.inl rfl, rfl⟩))
      | true =>
        cases inGuard with
        | true =>
          -- Inside a guard an inclusion is left alone, with or without a path.
          refine .inr (.inr (.inl ⟨?_, rfl⟩))
          cases includedPath? line <;> simp
        | false =>
          cases found : includedPath? line with
          | none => exact .inr (.inr (.inl ⟨.inl rfl, rfl⟩))
          | some path => exact .inr (.inr (.inr ⟨rfl, rfl, path, rfl, rfl⟩))

/-- Lines whose inclusions are all guarded get no guard. -/
theorem guardIncludes_of_guarded {inGuard : Bool} {lines : List Text}
    (all : Guarded inGuard (lines.filterMap ofLine?)) : guardIncludes inGuard lines = lines := by
  induction lines generalizing inGuard with
  | nil => rfl
  | cons line rest ih =>
    rcases guardIncludes_cons inGuard line rest with ⟨sign, same⟩ | ⟨sign, same⟩ |
      ⟨sign | ⟨sign, isOpen⟩, same⟩ | ⟨sign, isClosed, -⟩
    · rw [same, ih (by simpa [sign, Guarded] using all)]
    · rw [same, ih (by simpa [sign, Guarded] using all)]
    · rw [same, ih (by simpa [sign] using all)]
    · rw [same, ih (by simpa [sign, Guarded, isOpen] using all)]
    · -- Such an inclusion is in no guard.
      simp [sign, Guarded, isClosed] at all

/-- The lines of a guard open it and close it. -/
theorem guarded_signs (line path : Text) :
    (guarded line path).filterMap ofLine? = .opens :: (ofLine? line).toList ++ [.closes] := by
  have opens : ofLine? ("#ifndef ".toList ++ includeGuard path) = some .opens :=
    if_pos (List.isPrefixOf_iff_prefix.mpr (List.prefix_append _ _))
  have plain : ofLine? ("#define ".toList ++ includeGuard path) = none := rfl
  have closes : ofLine? ("#endif  // ".toList ++ includeGuard path) = some .closes := rfl
  -- Of the four lines the second is nothing to the guards, and the third is the line itself.
  cases found : ofLine? line <;> simp only [guarded, List.filterMap_cons, List.filterMap_nil,
    opens, plain, closes, found] <;> rfl

/-- Lines whose inclusions got their guards have no inclusion outside a guard. -/
theorem guarded_guardIncludes (inGuard : Bool) (lines : List Text) :
    Guarded inGuard ((guardIncludes inGuard lines).filterMap ofLine?) := by
  induction lines generalizing inGuard with
  | nil => trivial
  | cons line rest ih =>
    -- The four cases of a line, of which the third stands for two.
    rcases guardIncludes_cons inGuard line rest with ⟨sign, same⟩ | ⟨sign, same⟩ |
      ⟨sign | ⟨sign, isOpen⟩, same⟩ | ⟨sign, isClosed, path, -, same⟩
    · simpa [same, sign, Guarded] using ih true
    · simpa [same, sign, Guarded] using ih false
    · simpa [same, sign] using ih inGuard
    · subst isOpen
      simpa [same, sign, Guarded] using ih true
    · -- The line stands between its guard's first line and its last, which leaves none open.
      rw [same, List.filterMap_append, guarded_signs, sign]
      exact ⟨rfl, ih false⟩

/-- The lines of a guard have something on them and no blank at their ends. -/
theorem IsLine.guarded {line path : Text} (isLine : IsLine line)
    (found : includedPath? line = some path) : ∀ other ∈ guarded line path, IsLine other := by
  simp only [includedPath?, Option.bind_eq_bind, Option.bind_eq_some_iff, Option.pure_def,
    Option.some.injEq, Prod.exists] at found
  obtain ⟨before, rest, first, inner, after, second, rfl⟩ := found
  obtain ⟨-, whole⟩ := Text.of_breakAt? first
  obtain ⟨-, rfl⟩ := Text.of_breakAt? second
  -- The macro is made of the path's characters and underscores.
  have single : '\n' ∉ includeGuard inner := fun member => by
    rcases List.mem_append.mp member with inside | last
    · rcases Text.mem_of_mem_replace inside with inPath | added
      · have inLine : '\n' ∈ line := by
          simp [whole, (Text.dropSuffix_isPrefix _ _).subset inPath]
        exact isLine.single inLine
      · simp at added
    · simp at last
  have ofMacro : ∀ start : Text, '\n' ∉ start → IsLine ('#' :: start ++ includeGuard inner) :=
    fun start lacks => by
      have last : ('#' :: start ++ includeGuard inner).getLast? = some '_' := by
        rw [includeGuard, ← List.append_assoc, List.getLast?_concat]
      refine ⟨by simp, ⟨fun c head => ?_, fun c ending => ?_⟩, by simp [lacks, single]⟩
      · obtain rfl : '#' = c := by simpa using head
        decide
      · obtain rfl : '_' = c := Option.some.inj (last.symm.trans ending)
        decide
  intro other member
  simp only [Cleanup.guarded, List.mem_cons, List.not_mem_nil, or_false] at member
  -- The other lines are number signs, words and the macro.
  rcases member with rfl | rfl | rfl | rfl
  · exact ofMacro _ (by decide)
  · exact ofMacro _ (by decide)
  · exact isLine
  · exact ofMacro _ (by decide)

/-- Guards have something on each of their lines and no blank at its ends. -/
theorem isLine_of_mem_guardIncludes {inGuard : Bool} {lines : List Text}
    (all : ∀ line ∈ lines, IsLine line) : ∀ line ∈ guardIncludes inGuard lines, IsLine line := by
  induction lines generalizing inGuard with
  | nil => simp [guardIncludes]
  | cons first rest ih =>
    have isLine := all first (by simp)
    have later : ∀ {inGuard}, ∀ line ∈ guardIncludes inGuard rest, IsLine line :=
      ih fun other member => all other (by simp [member])
    rcases guardIncludes_cons inGuard first rest with ⟨-, same⟩ | ⟨-, same⟩ | ⟨-, same⟩ |
      ⟨-, -, path, found, same⟩
    iterate 3
      rw [same]
      exact List.forall_mem_cons.mpr ⟨isLine, later⟩
    · rw [same]
      exact List.forall_mem_append.mpr ⟨isLine.guarded found, later⟩

/-- The lines of a text after its inclusions got their guards. -/
theorem isLine_of_mem_guarded {text line : Text}
    (member : line ∈ guardIncludes false (dropEmpty text)) : IsLine line :=
  isLine_of_mem_guardIncludes (fun _ => isLine_of_mem_dropEmpty) line member

end Cleanup
end IdlScout
