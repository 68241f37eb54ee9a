import IdlScout.Proofs.Idl.Arrays

/-! How each line passes through the clean-up: by itself, but for the arrays that lines before it
define, and with lines of guards put between. -/

namespace IdlScout
namespace Cleanup

/-- A line after its array was written out, unless it defines one. -/
def written? (known : List ArrayAlias) (line : Text) : Option Text :=
  match ArrayAlias.ofTypedef? line with
  | some _ => none
  | none =>
    match ArrayMember.ofLine? line with
    | some member => some (if known.contains member.array then member.inlined else line)
    | none => some line

/-- What becomes of a line where some arrays are known. -/
def outcome? (known : List ArrayAlias) (line : Text) : Option Text :=
  ((written? known line).filter fun line => !isComment line).map renameReserved

/-- What becomes of lines whose inclusions have their guards. -/
def finish (known : List ArrayAlias) (lines : List Text) : List Text :=
  ((inlineArrays known lines).filter fun line => !isComment line).map renameReserved

/-- The lines that pieces of a text leave when they are trimmed. -/
def visible (pieces : List Text) : List Text :=
  (pieces.map Text.trim).filter fun line => !line.isEmpty

/-- The arrays that pieces of a text define. -/
def definedBy (pieces : List Text) : List ArrayAlias :=
  pieces.filterMap fun piece => ArrayAlias.ofTypedef? (Text.trim piece)

variable {known other : List ArrayAlias} {line : Text} {lines out : List Text}

/-- Lines are written one after the other, each with what those before it define. -/
theorem inlineArrays_cons (known : List ArrayAlias) (line : Text) (rest : List Text) :
    inlineArrays known (line :: rest) = (written? known line).toList ++
      inlineArrays ((ArrayAlias.ofTypedef? line).toList ++ known) rest := by
  rw [inlineArrays, written?]
  -- Only a definition changes what is known further on.
  cases ArrayAlias.ofTypedef? line with
  | some array => rfl
  | none => cases ArrayMember.ofLine? line <;> rfl

theorem finish_cons (known : List ArrayAlias) (line : Text) (rest : List Text) :
    finish known (line :: rest) = (outcome? known line).toList ++
      finish ((ArrayAlias.ofTypedef? line).toList ++ known) rest := by
  rw [finish, inlineArrays_cons, List.filter_append, List.map_append, ← finish, outcome?]
  congr 1
  -- The line is dropped, or written and then kept or dropped as a comment.
  cases written? known line with
  | none => rfl
  | some text => cases kept : isComment text <;> simp [Option.filter, kept]

/-- Lines leave to those after them the arrays that they define. -/
theorem finish_append (known : List ArrayAlias) (front back : List Text) :
    finish known (front ++ back) = finish known front ++
      finish ((front.filterMap ArrayAlias.ofTypedef?).reverse ++ known) back := by
  -- The arrays of earlier lines stand behind those of later ones.
  induction front generalizing known with
  | nil => rfl
  | cons line rest ih =>
    rw [List.cons_append, finish_cons, ih, finish_cons, List.append_assoc, List.filterMap_cons]
    cases ArrayAlias.ofTypedef? line <;> simp

/-- Only which arrays are known matters to a line. -/
theorem outcome?_congr (same : ∀ array, array ∈ known ↔ array ∈ other) (line : Text) :
    outcome? known line = outcome? other line := by
  have contains (array : ArrayAlias) : known.contains array = other.contains array := by
    simp [same]
  simp only [outcome?, written?, contains]

/-- A member of a known array comes out with its array written out. -/
theorem outcome?_of_known (isLine : IsLine line) {member : ArrayMember}
    (found : ArrayMember.ofLine? line = some member) (isKnown : member.array ∈ known) :
    outcome? known line = some member.inlined := by
  simp [outcome?, written?, ArrayMember.ofTypedef?_of_member isLine found, found, isKnown,
    Option.filter, ArrayMember.isComment_inlined isLine found,
    ArrayMember.renameReserved_inlined isLine found]

/-- Any other line but a definition is dropped as a comment, or has a reserved name renamed. -/
theorem outcome?_of_unknown (noTypedef : ArrayAlias.ofTypedef? line = none)
    (unknown : ∀ member, ArrayMember.ofLine? line = some member → member.array ∉ known) :
    outcome? known line = if isComment line then none else some (renameReserved line) := by
  -- No array is written out, so the line goes on to the check for comments.
  have stays : written? known line = some line := by
    cases found : ArrayMember.ofLine? line with
    | none => simp [written?, noTypedef, found]
    | some member => simp [written?, noTypedef, found, unknown member found]
  cases comment : isComment line <;> simp [outcome?, stays, Option.filter, comment]

/-- A line of the result is a member whose array was written out, or the line with a reserved name
renamed. -/
theorem of_outcome? (isLine : IsLine line) {text : Text}
    (becomes : outcome? known line = some text) :
    (∃ member, ArrayMember.ofLine? line = some member ∧ member.array ∈ known ∧
        text = member.inlined) ∨
      (text = renameReserved line ∧
        ∀ member, ArrayMember.ofLine? line = some member → member.array ∉ known) := by
  -- The two outcomes are told apart by whether the line uses a known array.
  by_cases uses : ∃ member, ArrayMember.ofLine? line = some member ∧ member.array ∈ known
  · obtain ⟨member, found, isKnown⟩ := uses
    rw [outcome?_of_known isLine found isKnown] at becomes
    exact .inl ⟨member, found, isKnown, (Option.some.inj becomes).symm⟩
  · have unknown : ∀ member, ArrayMember.ofLine? line = some member → member.array ∉ known :=
      fun member found isKnown => uses ⟨member, found, isKnown⟩
    cases typedef : ArrayAlias.ofTypedef? line with
    | some array => simp [outcome?, written?, typedef] at becomes
    | none =>
      rw [outcome?_of_unknown typedef unknown] at becomes
      split at becomes
      · cases becomes
      · exact .inr ⟨(Option.some.inj becomes).symm, unknown⟩

/-- What becomes of one of the lines is a line of the result, if it is the same whatever else is
known by then. -/
theorem mem_finish {text : Text} (member : line ∈ lines)
    (becomes : ∀ other, known ⊆ other → outcome? other line = some text) :
    text ∈ finish known lines := by
  -- What is known grows from line to line, so the line is met with more known than at first.
  induction lines generalizing known with
  | nil => cases member
  | cons first rest ih =>
    rw [finish_cons]
    rcases List.mem_cons.mp member with rfl | later
    · simp [becomes known (fun _ => id)]
    · exact List.mem_append_right _ (ih later fun other more =>
        becomes other fun array inside => more (List.mem_append_right _ inside))

/-- A line of the result is what becomes of one of the lines where at least as much is known. -/
theorem of_mem_finish {text : Text} (member : text ∈ finish known lines) :
    ∃ line ∈ lines, ∃ other, known ⊆ other ∧ outcome? other line = some text := by
  -- The lines so far have added what they define to what is known.
  induction lines generalizing known with
  | nil => cases member
  | cons first rest ih =>
    rw [finish_cons] at member
    rcases List.mem_append.mp member with now | later
    · exact ⟨first, by simp, known, fun _ => id, Option.mem_toList.mp now⟩
    · obtain ⟨line, listed, other, more, becomes⟩ := ih later
      exact ⟨line, by simp [listed], other,
        fun array inside => more (List.mem_append_right _ inside), becomes⟩

/-- Lines, with others put between them that start with a number sign. -/
inductive Woven : List Text → List Text → Prop where
  | nil : Woven [] []
  | line {lines out : List Text} (line : Text) : Woven lines out → Woven (line :: lines) (line :: out)
  | sign {lines out : List Text} {sign : Text} : sign.head? = some '#' → Woven lines out →
    Woven lines (sign :: out)

/-- The lines of guards are put between the others. -/
theorem guardIncludes_woven (inGuard : Bool) (lines : List Text) :
    Woven lines (guardIncludes inGuard lines) := by
  induction lines generalizing inGuard with
  | nil => exact .nil
  | cons line rest ih =>
    rcases guardIncludes_cons inGuard line rest with ⟨-, same⟩ | ⟨-, same⟩ | ⟨-, same⟩ |
      ⟨-, -, path, -, same⟩
    iterate 3
      rw [same]
      exact .line line (ih _)
    · -- An inclusion has two lines of its guard before it, and one behind it.
      rw [same]
      exact .sign rfl (.sign rfl (.line line (.sign rfl (ih false))))

/-- Guards come to lines after others by what these leave open. -/
theorem guardIncludes_append (inGuard : Bool) (front back : List Text) :
    ∃ left, guardIncludes inGuard (front ++ back) =
      guardIncludes inGuard front ++ guardIncludes left back := by
  -- By induction on the front; only whether a guard is open is carried over.
  induction front generalizing inGuard with
  | nil => exact ⟨inGuard, rfl⟩
  | cons line rest ih =>
    rw [List.cons_append, guardIncludes, guardIncludes]
    -- A line is the same to both, whatever comes after it.
    cases "#ifndef ".toList.isPrefixOf line with
    | true => exact (ih true).imp fun left same => congrArg (line :: ·) same
    | false =>
      cases "#endif".toList.isPrefixOf line with
      | true => exact (ih false).imp fun left same => congrArg (line :: ·) same
      | false =>
        have kept := (ih inGuard).imp fun left same => congrArg (line :: ·) same
        cases !"#include".toList.isPrefixOf line || inGuard with
        | true => exact kept
        | false =>
          cases includedPath? line with
          | none => exact kept
          | some path =>
            exact (ih inGuard).imp fun left same => by
              simp only [Bool.false_eq_true, if_false, same, List.append_assoc]

/-- A line that starts with a number sign defines no array. -/
theorem ofTypedef?_of_sign {sign : Text} (head : sign.head? = some '#') :
    ArrayAlias.ofTypedef? sign = none := by
  cases found : ArrayAlias.ofTypedef? sign with
  | none => rfl
  | some array =>
    -- A definition starts with a letter, and the line does not.
    cases sign with
    | nil => cases head
    | cons c rest =>
      obtain rfl : c = '#' := by simpa using head
      have start := (of_ofTypedef? found).1
      cases start

/-- A line that starts with no space keeps its first character when it is renamed. -/
theorem head_renameReserved (head : line.head? ≠ some ' ') :
    (renameReserved line).head? = line.head? := by
  rcases renameReserved_cases line with same | ⟨type, name, rest, -, -, rfl, renamed⟩
  · rw [same]
  · -- The first word has the first character, and renaming leaves it alone.
    have started : type ≠ [] := fun empty => head (by simp [empty])
    rw [renamed, List.head?_append_of_ne_nil _ started, List.head?_append_of_ne_nil _ started]

/-- A line that starts with a number sign declares no member. -/
theorem ArrayMember.ofLine?_of_sign {sign : Text} (head : sign.head? = some '#') :
    ArrayMember.ofLine? sign = none := by
  -- Members start with a small letter.
  cases found : ArrayMember.ofLine? sign with
  | none => rfl
  | some member =>
    cases sign with
    | nil => cases head
    | cons c rest =>
      obtain rfl : c = '#' := by simpa using head
      obtain ⟨-, ⟨d, -, start, lower⟩, -⟩ := of_ofLine? found
      obtain rfl : '#' = d := by simpa [skipSpaces] using start
      cases lower

/-- A line that starts with a number sign keeps that sign, if it stays. -/
theorem head_of_outcome? {sign text : Text} (head : sign.head? = some '#')
    (becomes : outcome? known sign = some text) : text.head? = some '#' := by
  -- Neither a definition nor a member starts with the sign.
  have stays : written? known sign = some sign := by
    simp [written?, ofTypedef?_of_sign head, ArrayMember.ofLine?_of_sign head]
  obtain ⟨other, kept, rfl⟩ := Option.map_eq_some_iff.mp becomes
  obtain ⟨rfl, -⟩ : sign = other ∧ _ := by simpa [stays] using kept
  rw [head_renameReserved (by simp [head]), head]

namespace Woven

/-- Each line is among the woven ones. -/
theorem mem (woven : Woven lines out) (member : line ∈ lines) : line ∈ out := by
  induction woven with
  | nil => cases member
  | line first _ ih =>
    rcases List.mem_cons.mp member with rfl | later
    · simp
    · simp [ih later]
  | sign _ _ ih => simp [ih member]

/-- What is among the woven lines is one of the lines, or starts with a number sign. -/
theorem of_mem (woven : Woven lines out) (member : line ∈ out) :
    line ∈ lines ∨ line.head? = some '#' := by
  induction woven with
  | nil => cases member
  | line first _ ih =>
    rcases List.mem_cons.mp member with rfl | later
    · simp
    · exact (ih later).imp_left (List.mem_cons_of_mem _)
  | sign head _ ih =>
    rcases List.mem_cons.mp member with rfl | later
    · exact .inr head
    · exact ih later

/-- The lines put between the others define no arrays. -/
theorem typedefs (woven : Woven lines out) :
    out.filterMap ArrayAlias.ofTypedef? = lines.filterMap ArrayAlias.ofTypedef? := by
  induction woven with
  | nil => rfl
  | line first _ ih => simp only [List.filterMap_cons, ih]
  | sign head _ ih => rw [List.filterMap_cons_none (ofTypedef?_of_sign head), ih]

/-- What becomes of woven lines is woven of what becomes of the lines. -/
theorem finish (woven : Woven lines out) (known : List ArrayAlias) :
    Woven (finish known lines) (finish known out) := by
  -- By induction on the weave: a line becomes the same on both sides, and a sign stays a sign.
  induction woven generalizing known with
  | nil => exact .nil
  | line first _ ih =>
    rw [finish_cons, finish_cons]
    cases outcome? known first with
    | none => exact ih _
    | some text => exact .line text (ih _)
  | @sign _ _ sign head _ ih =>
    rw [finish_cons, ofTypedef?_of_sign head]
    cases becomes : outcome? known sign with
    | none => exact ih _
    | some text => exact .sign (head_of_outcome? head becomes) (ih _)

end Woven

/-- Pieces of a text leave their lines one after the other. -/
theorem visible_append (front back : List Text) :
    visible (front ++ back) = visible front ++ visible back := by
  rw [visible, List.map_append, List.filter_append, visible, visible]

/-- A piece with something on it leaves its line. -/
theorem mem_visible {pieces : List Text} :
    line ∈ visible pieces ↔ line ≠ [] ∧ ∃ piece ∈ pieces, Text.trim piece = line := by
  simp [visible, and_comm]

/-- The lines that pieces of a text leave have something on them and no blank at their ends. -/
theorem isLine_of_mem_visible {text : Text} {earlier later : List Text}
    (pieces : Text.cut '\n' text = earlier ++ later) (listed : line ∈ visible later) :
    IsLine line := by
  -- The lines of the parts are those of the whole text.
  have inText : line ∈ visible (Text.cut '\n' text) := by
    rw [pieces, visible_append]
    exact List.mem_append_right _ listed
  exact isLine_of_mem_dropEmpty inText

/-- The arrays of the lines that are left are those of the pieces. -/
theorem typedefs_visible (pieces : List Text) :
    (visible pieces).filterMap ArrayAlias.ofTypedef? = definedBy pieces := by
  induction pieces with
  | nil => rfl
  | cons piece rest ih =>
    simp only [visible, definedBy] at ih ⊢
    rw [List.map_cons, List.filter_cons, List.filterMap_cons, ← ih]
    split
    · rw [List.filterMap_cons]
    · -- An empty line defines none.
      rename_i empty
      have nothing : Text.trim piece = [] := by simpa using empty
      rw [nothing]
      rfl

/-- A text is cleaned up in parts: the lines of the first part as if there were no others, and those
of the second with the arrays that the first defines. -/
theorem cleanLines_append {text : Text} {earlier later : List Text}
    (pieces : Text.cut '\n' text = earlier ++ later) :
    ∃ known back, (∀ array, array ∈ known ↔ array ∈ definedBy earlier) ∧
      cleanLines text = cleanLines (Text.join ['\n'] earlier) ++ back ∧
      Woven (finish known (visible later)) back := by
  -- No piece holds a line ending, so cutting the joined pieces gives them back.
  have front : dropEmpty (Text.join ['\n'] earlier) = visible earlier := by
    cases earlier with
    | nil => rfl
    | cons first rest =>
      rw [dropEmpty, Text.cut_join (by simp), visible]
      intro piece listed
      have inText : piece ∈ Text.cut '\n' text := by
        rw [pieces]
        exact List.mem_append_left _ listed
      exact (Text.of_mem_cut inText).1
  have whole : dropEmpty text = visible earlier ++ visible later := by
    rw [← visible_append, ← pieces, dropEmpty, visible]
  obtain ⟨left, guards⟩ := guardIncludes_append false (visible earlier) (visible later)
  have definitions := (guardIncludes_woven false (visible earlier)).typedefs
  -- The guards of the first part define nothing, so that its arrays are those of its pieces.
  refine ⟨(definedBy earlier).reverse ++ [], _, by simp, ?_,
    (guardIncludes_woven left (visible later)).finish _⟩
  rw [cleanLines, whole, guards, ← finish, finish_append, definitions, typedefs_visible, cleanLines,
    front, ← finish]

/-- The lines of the result are what the text that is printed of them is cut into. -/
theorem mem_cut_cleanUp {text line : Text} (member : line ∈ cleanLines text) :
    line ∈ Text.cut '\n' (cleanUp text) := by
  have single : ∀ line ∈ cleanLines text, '\n' ∉ line := fun line listed =>
    (isSettled_of_mem_cleanLines listed).isLine.single
  rw [cleanUp]
  generalize cleanLines text = lines at single member
  induction lines with
  | nil => cases member
  | cons first rest ih =>
    rw [List.flatMap_cons, List.append_assoc, List.singleton_append, Text.cut_append_mark,
      Text.cut_of_not_mem (single first (by simp))]
    rcases List.mem_cons.mp member with rfl | later
    · simp
    · exact List.mem_append_right _ (ih (fun line listed => single line (by simp [listed])) later)

end Cleanup
end IdlScout
