import IdlScout.Proofs.Idl.Passage

/-! Inclusions of a text that is cleaned up: each comes out inside a guard, and their paths come out
in the order in which they came, each as often as it came. -/

namespace IdlScout

/-- The carriage return at the end of a line is a blank like any other. -/
theorem Text.trim_dropSuffix_return (piece : Text) :
    trim (dropSuffix ['\r'] piece) = trim piece := by
  -- What the ending of a line takes away, trimming would have taken too.
  by_cases returns : piece.getLast? = some '\r'
  · obtain ⟨before, rfl⟩ := List.getLast?_eq_some_iff.mp returns
    rw [dropSuffix_concat, trim_append_right (by decide)]
  · rw [dropSuffix_of_last returns]

namespace Cleanup

open GuardSign

variable {known : List ArrayAlias} {line : Text} {lines : List Text}

/-- The path of a line that includes one. -/
def inclusionPath? (line : Text) : Option Text :=
  if "#include".toList.isPrefixOf line then includedPath? line else none

/-- A line that starts with no number sign includes nothing. -/
theorem inclusionPath?_of_head (head : line.head? ≠ some '#') : inclusionPath? line = none := by
  -- The number sign is the first character of every inclusion.
  refine if_neg fun starts => head ?_
  obtain ⟨rest, rfl⟩ := List.isPrefixOf_iff_prefix.mp starts
  rfl

/-- A line that starts otherwise than an inclusion does includes nothing. -/
theorem inclusionPath?_of_not_prefix (other : ¬ "#include".toList <+: line) :
    inclusionPath? line = none :=
  if_neg fun starts => other (List.isPrefixOf_iff_prefix.mp starts)

/-! ## Line by line -/

/-- An inclusion without a semicolon declares no name, so that none in it is renamed; and no other
line comes to include something by a name that is. -/
theorem inclusionPath?_renameReserved (unended : "#include".toList <+: line → ';' ∉ line) :
    inclusionPath? (renameReserved line) = inclusionPath? line := by
  rcases renameReserved_cases line with same | ⟨type, name, rest, -, -, rfl, renamed⟩
  · rw [same]
  -- The renamed line ends in a semicolon, so it was no inclusion, and its first word is kept.
  have plain : ¬ "#include".toList <+: type ++ ' ' :: (name ++ ';' :: rest) :=
    fun starts => unended starts (by simp)
  have kept : ¬ "#include".toList <+: type ++ ' ' :: (name ++ ['_', ';']) := fun starts => by
    have inType : "#include".toList <+: type :=
      Text.prefix_of_prefix_append_cons (by decide) type starts
    exact plain (inType.trans (List.prefix_append _ _))
  rw [renamed, inclusionPath?_of_not_prefix kept, inclusionPath?_of_not_prefix plain]

/-- A line that starts with a number sign defines no array, declares no member and is in no
comment. -/
theorem outcome?_of_sign (isLine : IsLine line) (head : line.head? = some '#') :
    outcome? known line = some (renameReserved line) := by
  have noMember : ∀ member, ArrayMember.ofLine? line = some member → member.array ∉ known :=
    fun member found => by simp [ArrayMember.ofLine?_of_sign head] at found
  have noComment : isComment line = false := isComment_of_head isLine (by simp [head])
  rw [outcome?_of_unknown (ofTypedef?_of_sign head) noMember, noComment]
  rfl

/-- No line comes to start with a number sign. -/
theorem head_of_outcome?_ne_sign (isLine : IsLine line) (head : line.head? ≠ some '#') {text : Text}
    (becomes : outcome? known line = some text) : text.head? ≠ some '#' := by
  rcases of_outcome? isLine becomes with ⟨member, found, -, rfl⟩ | ⟨rfl, -⟩
  · -- An array is written out as its element type, which starts with a small letter.
    obtain ⟨c, first, lower⟩ := ArrayMember.head_inlined isLine found
    intro sign
    obtain rfl : c = '#' := Option.some.inj (first.symm.trans sign)
    cases lower
  · rwa [head_renameReserved isLine.head_ne_space]

/-- A line includes what it included, whatever arrays are known. -/
theorem inclusionPath?_outcome? (known : List ArrayAlias) (isLine : IsLine line)
    (unended : "#include".toList <+: line → ';' ∉ line) :
    (outcome? known line).bind inclusionPath? = inclusionPath? line := by
  by_cases head : line.head? = some '#'
  · rw [outcome?_of_sign isLine head, Option.bind_some, inclusionPath?_renameReserved unended]
  -- Any other line includes nothing, and neither does what becomes of it.
  · rw [inclusionPath?_of_head head]
    cases becomes : outcome? known line with
    | none => rfl
    | some text => exact inclusionPath?_of_head (head_of_outcome?_ne_sign isLine head becomes)

/-! ## Over all lines -/

/-- Lines whose inclusions have their guards keep all of them to the end. -/
theorem paths_finish (isLine : ∀ line ∈ lines, IsLine line)
    (unended : ∀ line ∈ lines, "#include".toList <+: line → ';' ∉ line) :
    (finish known lines).filterMap inclusionPath? = lines.filterMap inclusionPath? := by
  -- A line leaves more arrays known to the others, so the induction is over any known ones.
  induction lines generalizing known with
  | nil => rfl
  | cons first rest ih =>
    have later := @ih ((ArrayAlias.ofTypedef? first).toList ++ known)
      (fun line listed => isLine line (by simp [listed]))
      (fun line listed => unended line (by simp [listed]))
    have kept := inclusionPath?_outcome? known (isLine first (by simp)) (unended first (by simp))
    rw [finish_cons, List.filterMap_append, later, List.filterMap_cons, ← kept]
    cases outcome? known first with
    | none => rfl
    | some text => cases included : inclusionPath? text <;> simp [included]

/-- The lines of a guard include what the line between them does. -/
theorem paths_guarded (line path : Text) :
    (guarded line path).filterMap inclusionPath? = (inclusionPath? line).toList := by
  -- Each of the other three starts with a word of its own behind the number sign.
  have opens : inclusionPath? ("#ifndef ".toList ++ includeGuard path) = none := rfl
  have defines : inclusionPath? ("#define ".toList ++ includeGuard path) = none := rfl
  have closes : inclusionPath? ("#endif  // ".toList ++ includeGuard path) = none := rfl
  cases found : inclusionPath? line <;> simp only [guarded, List.filterMap_cons,
    List.filterMap_nil, opens, defines, closes, found, Option.toList_none, Option.toList_some]

/-- Guards change nothing of what is included. -/
theorem paths_guardIncludes (inGuard : Bool) (lines : List Text) :
    (guardIncludes inGuard lines).filterMap inclusionPath? = lines.filterMap inclusionPath? := by
  -- A line stays alone, or is an inclusion that stays between the lines of its guard.
  induction lines generalizing inGuard with
  | nil => rfl
  | cons line rest ih =>
    rcases guardIncludes_cons inGuard line rest with ⟨-, same⟩ | ⟨-, same⟩ | ⟨-, same⟩ |
      ⟨-, -, path, -, same⟩
    iterate 3
      rw [same, List.filterMap_cons, ih, List.filterMap_cons]
    · rw [same, List.filterMap_append, paths_guarded, ih, List.filterMap_cons]
      cases inclusionPath? line <;> rfl

/-- The lines put between the others are no inclusions. -/
theorem of_mem_guardIncludes {inGuard : Bool} (member : line ∈ guardIncludes inGuard lines) :
    line ∈ lines ∨ ¬ "#include".toList <+: line := by
  induction lines generalizing inGuard with
  | nil => cases member
  | cons first rest ih =>
    have later {inGuard : Bool} (member : line ∈ guardIncludes inGuard rest) :=
      (ih member).imp_left (List.mem_cons_of_mem first)
    rcases guardIncludes_cons inGuard first rest with ⟨-, same⟩ | ⟨-, same⟩ | ⟨-, same⟩ |
      ⟨-, -, path, -, same⟩
    iterate 3
      rw [same] at member
      exact (List.mem_cons.mp member).elim (fun same => .inl (by simp [same])) later
    · -- Of the four lines of a guard only the third was there before.
      rw [same, List.mem_append] at member
      rcases member with inGuarded | inRest
      · simp only [guarded, List.mem_cons, List.not_mem_nil, or_false] at inGuarded
        rcases inGuarded with rfl | rfl | rfl | rfl
        · exact .inr (by simp)
        · exact .inr (by simp)
        · exact .inl (by simp)
        · exact .inr (by simp)
      · exact later inRest

/-- The lines of a text are left when they are trimmed, unless nothing is on them. -/
theorem dropEmpty_eq_visible (text : Text) : dropEmpty text = visible (Text.lines text) := by
  have ended (pieces : List Text) :
      visible (pieces.map (Text.dropSuffix ['\r'])) = visible pieces := by
    simp [visible, Function.comp_def, Text.trim_dropSuffix_return]
  obtain ⟨init, last, pieces⟩ := Text.exists_pieces '\n' text
  rw [dropEmpty, ← visible, pieces, visible_append, Text.lines_of_pieces pieces, visible_append,
    ended]
  -- Nothing is on the last piece of a text that ends in a line feed.
  cases last <;> rfl

/-- Lines with nothing on them include nothing. -/
theorem paths_visible (lines : List Text) :
    (visible lines).filterMap inclusionPath? = (lines.map Text.trim).filterMap inclusionPath? := by
  rw [visible, List.filterMap_filter]
  refine List.filterMap_congr fun line _ => ?_
  cases line <;> rfl

/-- Lines without blanks at their ends are the lines of the text that they are printed to. -/
theorem lines_print (isLine : ∀ line ∈ lines, IsLine line) :
    Text.lines (lines.flatMap fun line => line ++ ['\n']) = lines := by
  induction lines with
  | nil => rfl
  | cons first rest ih =>
    have line := isLine first (by simp)
    -- A carriage return would be a blank at the line's end.
    have returns : first.getLast? ≠ some '\r' := fun last => by
      have shown := line.trimmed.2 '\r' last
      cases shown
    rw [List.flatMap_cons, List.append_assoc, List.singleton_append,
      Text.lines_append_feed line.single returns,
      ih fun other listed => isLine other (by simp [listed])]

/-- The lines of a text that was cleaned up are those that every step left. -/
theorem lines_cleanUp (text : Text) : Text.lines (cleanUp text) = cleanLines text :=
  lines_print fun _ listed => (isSettled_of_mem_cleanLines listed).isLine

end Cleanup

open Cleanup

/-- In a text that was cleaned up every line that includes a path stands in a guard. The paths are
those of the text before, in order and with all repetitions, if no inclusion in it has a semicolon;
blanks at the ends of a line are no part of it. -/
theorem cleanUp_guards_inclusions {text : Text}
    (unended : ∀ line ∈ Text.lines text, "#include".toList <+: Text.trim line → ';' ∉ line) :
    GuardSign.Guarded false ((Text.lines (cleanUp text)).filterMap GuardSign.ofLine?) ∧
      (Text.lines (cleanUp text)).filterMap inclusionPath? =
        ((Text.lines text).map Text.trim).filterMap inclusionPath? := by
  rw [lines_cleanUp]
  refine ⟨guarded_cleanLines text, ?_⟩
  -- Whether or not it got a guard, every inclusion is a line of the text, and has no semicolon.
  have plain : ∀ line ∈ guardIncludes false (dropEmpty text),
      "#include".toList <+: line → ';' ∉ line := fun line listed starts inside => by
    have kept := (of_mem_guardIncludes listed).resolve_right (not_not_intro starts)
    rw [dropEmpty_eq_visible, mem_visible] at kept
    obtain ⟨-, piece, inText, rfl⟩ := kept
    exact unended piece inText starts (Text.mem_of_mem_trim inside)
  -- The guards come first, and every later step goes over the lines one by one.
  calc (cleanLines text).filterMap inclusionPath?
    _ = (guardIncludes false (dropEmpty text)).filterMap inclusionPath? :=
        paths_finish (fun _ => isLine_of_mem_guarded) plain
    _ = (visible (Text.lines text)).filterMap inclusionPath? := by
        rw [paths_guardIncludes, dropEmpty_eq_visible]
    _ = ((Text.lines text).map Text.trim).filterMap inclusionPath? := paths_visible _

/-- One file is included twice outside guards, the first time behind spaces, and another inside a
guard; a comment between them goes. -/
theorem cleanUp_guards_inclusions_of_three :
    let text := Text.join ['\n'] ["  #include \"a.idl\"".toList, "#ifndef B_".toList,
      "@verbatim(language=\"comment\", text=\"b\")".toList, "#include \"m/b.idl\"".toList,
      "#endif  // B_".toList, "#include \"a.idl\"".toList]
    (∀ line ∈ Text.lines text, "#include".toList <+: Text.trim line → ';' ∉ line) ∧
      GuardSign.Guarded false ((Text.lines (cleanUp text)).filterMap GuardSign.ofLine?) ∧
      (Text.lines (cleanUp text)).filterMap inclusionPath? =
        ["a.idl".toList, "m/b.idl".toList, "a.idl".toList] := by
  intro text
  have unended : ∀ line ∈ Text.lines text, "#include".toList <+: Text.trim line → ';' ∉ line := by
    decide +kernel
  obtain ⟨guards, paths⟩ := cleanUp_guards_inclusions unended
  have came : ((Text.lines text).map Text.trim).filterMap inclusionPath? =
      ["a.idl".toList, "m/b.idl".toList, "a.idl".toList] := by decide +kernel
  exact ⟨unended, guards, paths.trans came⟩

/-- An inclusion with a semicolon can look like a member with a reserved name, and lose its path. -/
example : let text := "#include struct; \"a\"".toList
    [text].filterMap inclusionPath? = [['a']] ∧
      cleanUp text = "#ifndef a_\n#define a_\n#include struct_;\n#endif  // a_\n".toList := by
  decide +kernel

end IdlScout
