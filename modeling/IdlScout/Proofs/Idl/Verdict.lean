import IdlScout.Detection.Type
import IdlScout.Proofs.Idl.Reading
import Mathlib.Algebra.Group.Nat.Even

/-! Which texts are understood, and which are refused: the places in a text that decide it are said
here on their own, and reading comes to the same verdict on every text. -/

namespace IdlScout
namespace Declaration

/-! ## The first keyword -/

/-- A keyword stands in a text: no character of a word is right before it, and a blank is right
behind it. -/
structure Stands (text before keyword behind : Text) : Prop where
  whole : text = before ++ keyword ++ behind
  listed : keyword ∈ keywords
  apart : EndsOutsideWord before
  blank : behind.head?.any isBlank = true

/-- What is before the first keyword that stands in a text, and what is behind it. -/
def OpensAt (text before behind : Text) : Prop :=
  ∃ keyword, Stands text before keyword behind ∧
    ∀ earlier other rest, Stands text earlier other rest → before.length ≤ earlier.length

/-- A text ends outside words if no word character is at its end. -/
theorem endsOutsideWord_iff {text : Text} :
    EndsOutsideWord text ↔ text.getLast?.elim false isWord = false := by
  cases last : text.getLast? <;> simp [EndsOutsideWord, last]

/-- Where reading starts, a keyword stands. -/
theorem of_breakAtKeyword? {afterWord : Bool} {text before body : Text}
    (found : breakAtKeyword? afterWord text = some (before, body)) :
    ∃ keyword ∈ keywords, ∃ c rest, isBlank c = true ∧ text = before ++ keyword ++ c :: rest ∧
      before.getLast?.elim afterWord isWord = false ∧ body = Text.trimStart rest := by
  induction text generalizing afterWord before with
  | nil => simp [breakAtKeyword?] at found
  | cons d text ih =>
    rw [breakAtKeyword?] at found
    split at found
    · rename_i taken
      obtain ⟨rfl, rfl⟩ := Prod.mk.inj (Option.some.inj found)
      -- A keyword after a word character would be the end of a longer word.
      cases afterWord with
      | true => cases taken
      | false =>
        obtain ⟨keyword, listed, c, rest, blank, whole, trimmed⟩ := keyword_of_afterKeyword? taken
        exact ⟨keyword, listed, c, rest, blank, whole, rfl, trimmed⟩
    · -- The keyword is further on, and what precedes the rest is the character just passed.
      obtain ⟨⟨inner, last⟩, later, same⟩ := Option.map_eq_some_iff.mp found
      obtain ⟨rfl, rfl⟩ := Prod.mk.inj same
      obtain ⟨keyword, listed, c, rest, blank, whole, fresh, trimmed⟩ := ih later
      refine ⟨keyword, listed, c, rest, blank, by simp [whole], ?_, trimmed⟩
      rw [List.getLast?_cons]
      cases ending : inner.getLast? <;> simpa [ending] using fresh

namespace Stands

variable {text before keyword behind : Text}

/-- Reading starts at a keyword that stands in the text, or at one before it. -/
theorem breakAtKeyword? (stands : Stands text before keyword behind) :
    ∃ leading body, Declaration.breakAtKeyword? false text = some (leading, body) ∧
      leading <+: before := by
  obtain ⟨rfl, listed, apart, blank⟩ := stands
  -- A keyword at the end of the text has no blank behind it.
  cases behind with
  | nil => cases blank
  | cons c rest =>
    exact breakAtKeyword?_of_standing (endsOutsideWord_iff.mp apart) listed
      (by simpa using blank) rest

/-- One keyword at most stands at a place. -/
theorem behind_eq {other rest : Text} (stands : Stands text before keyword behind)
    (again : Stands text before other rest) : behind = rest := by
  have same : keyword ++ behind = other ++ rest := by
    simpa using stands.whole.symm.trans again.whole
  have first := stands.listed
  have second := again.listed
  -- The two keywords differ in their first letters.
  simp only [keywords, List.mem_cons, List.not_mem_nil, or_false] at first second
  rcases first with rfl | rfl <;> rcases second with rfl | rfl <;> simp_all

end Stands

/-- Reading starts at the first keyword. -/
theorem opensAt_of_breakAtKeyword? {text before body : Text}
    (found : breakAtKeyword? false text = some (before, body)) :
    ∃ behind, OpensAt text before behind ∧ body = Text.trimStart behind := by
  obtain ⟨keyword, listed, c, rest, blank, whole, fresh, rfl⟩ := of_breakAtKeyword? found
  have stands : Stands text before keyword (c :: rest) :=
    ⟨whole, listed, endsOutsideWord_iff.mpr fresh, by simpa using blank⟩
  -- A keyword further left would have been found instead.
  refine ⟨c :: rest, ⟨keyword, stands, fun earlier other behind again => ?_⟩, ?_⟩
  · obtain ⟨leading, body, first, within⟩ := again.breakAtKeyword?
    obtain ⟨rfl, -⟩ := Prod.mk.inj (Option.some.inj (found.symm.trans first))
    exact within.length_le
  · simp [Text.trimStart, blank]

/-- From the first keyword on the text is read, without the blanks behind the keyword. -/
theorem OpensAt.breakAtKeyword? {text before behind : Text} (opens : OpensAt text before behind) :
    Declaration.breakAtKeyword? false text = some (before, Text.trimStart behind) := by
  obtain ⟨keyword, stands, first⟩ := opens
  obtain ⟨leading, body, found, within⟩ := stands.breakAtKeyword?
  obtain ⟨rest, ⟨other, again, -⟩, rfl⟩ := opensAt_of_breakAtKeyword? found
  -- What is found stands before the first keyword or at it, so it is that one.
  obtain rfl := within.eq_of_length_le (first leading other rest again)
  rw [found, stands.behind_eq again]

/-- Where no keyword stands, nothing is read. -/
theorem breakAtKeyword?_eq_none {text : Text}
    (unopened : ∀ before behind, ¬ OpensAt text before behind) :
    breakAtKeyword? false text = none := by
  cases found : breakAtKeyword? false text with
  | none => rfl
  | some parts =>
    -- What would be found stands in the text.
    obtain ⟨behind, opens, -⟩ := opensAt_of_breakAtKeyword? found
    exact absurd opens (unopened _ _)

/-! ## The name in a header -/

/-- How many colons a text ends in. -/
def colonsAtEnd (text : Text) : Nat :=
  (text.reverse.takeWhile (· == ':')).length

/-- A colon between two texts is alone if it is the last of an odd number of colons, as those before
it are two by two. -/
structure IsLone (before after : Text) : Prop where
  paired : Even (colonsAtEnd before)
  last : after.head? ≠ some ':'

/-- The name in a header: what is before the first lone colon, or all of it without one. -/
inductive IsNamed (header : Text) : Text → Prop
  | whole (closed : ∀ before after, header = before ++ ':' :: after → ¬ IsLone before after) :
    IsNamed header header
  | based {name base : Text} (split : header = name ++ ':' :: base) (lone : IsLone name base)
    (first : ∀ before after, header = before ++ ':' :: after → IsLone before after →
      name.length ≤ before.length) : IsNamed header name

/-- A character that is no colon is not counted. -/
theorem colonsAtEnd_cons {c : Char} (other : c ≠ ':') (text : Text) :
    colonsAtEnd (c :: text) = colonsAtEnd text := by
  rw [colonsAtEnd, List.reverse_cons, List.takeWhile_append]
  -- The count runs from the end, so it comes to the first character only if all are colons.
  split
  · rename_i all
    have counted : colonsAtEnd text = text.reverse.length := all
    simp [other, counted]
  · rfl

/-- Two more colons before a text leave the number at its end even, or odd. -/
theorem even_colonsAtEnd_cons_cons (text : Text) :
    Even (colonsAtEnd (':' :: ':' :: text)) ↔ Even (colonsAtEnd text) := by
  have shape : (':' :: ':' :: text).reverse = text.reverse ++ [':', ':'] := by simp
  rw [colonsAtEnd, shape, List.takeWhile_append]
  split
  · rename_i all
    -- There are only colons, and two more of them.
    have counted : colonsAtEnd text = text.reverse.length := all
    have two : ([':', ':'].takeWhile (· == ':')).length = 2 := by decide
    have pair : Even 2 := by decide
    rw [List.length_append, two, counted, Nat.even_add, iff_true_right pair]
  · rfl

/-- A character that is no colon does not matter to the colons behind it. -/
theorem isLone_cons_iff {c : Char} (other : c ≠ ':') {before after : Text} :
    IsLone (c :: before) after ↔ IsLone before after := by
  have same := colonsAtEnd_cons other before
  exact ⟨fun ⟨paired, last⟩ => ⟨same ▸ paired, last⟩, fun ⟨paired, last⟩ => ⟨same ▸ paired, last⟩⟩

/-- Two colons do not matter to the colons behind them. -/
theorem isLone_cons_cons_iff {before after : Text} :
    IsLone (':' :: ':' :: before) after ↔ IsLone before after := by
  have same := even_colonsAtEnd_cons_cons before
  exact ⟨fun ⟨paired, last⟩ => ⟨same.mp paired, last⟩,
    fun ⟨paired, last⟩ => ⟨same.mpr paired, last⟩⟩

namespace IsNamed

variable {header name : Text}

/-- A header has one name. -/
theorem unique {other : Text} (named : IsNamed header name) (again : IsNamed header other) :
    name = other := by
  cases named with
  | whole closed =>
    cases again with
    | whole => rfl
    | based split lone => exact absurd lone (closed _ _ split)
  | based split lone first =>
    cases again with
    | whole closed => exact absurd lone (closed _ _ split)
    | based split' lone' first' =>
      -- Neither of two first colons is before the other.
      have same := Nat.le_antisymm (first _ _ split' lone') (first' _ _ split lone)
      exact (List.append_inj (split.symm.trans split') same).1

/-- What is before all lone colons of a header is before all those of its name. -/
theorem append (front : Text) (named : IsNamed header name)
    (later : ∀ before after, front ++ header = before ++ ':' :: after → IsLone before after →
      ∃ inner, before = front ++ inner ∧ IsLone inner after)
    (still : ∀ inner after, IsLone inner after → IsLone (front ++ inner) after) :
    IsNamed (front ++ header) (front ++ name) := by
  -- The colon is looked for in the header alone, and no colon of the front is alone.
  cases named with
  | whole closed =>
    refine .whole fun before after split lone => ?_
    obtain ⟨inner, rfl, inside⟩ := later before after split lone
    exact closed inner after (List.append_cancel_left (split.trans (List.append_assoc ..))) inside
  | based split lone first =>
    refine .based (by rw [split, List.append_assoc]) (still _ _ lone)
      fun before after split lone => ?_
    obtain ⟨inner, rfl, inside⟩ := later before after split lone
    have reached := first inner after
      (List.append_cancel_left (split.trans (List.append_assoc ..))) inside
    simpa using reached

/-- A character that is no colon is part of the name. -/
theorem cons {c : Char} (other : c ≠ ':') (named : IsNamed header name) :
    IsNamed (c :: header) (c :: name) := by
  -- What is before a lone colon starts with the character, since the character is no colon.
  refine named.append [c] (fun before after split lone => ?_)
    fun inner after lone => (isLone_cons_iff other).mpr lone
  cases before with
  | nil => exact absurd (List.cons.inj split).1 other
  | cons d inner =>
    obtain ⟨rfl, -⟩ := List.cons.inj split
    exact ⟨inner, rfl, (isLone_cons_iff other).mp lone⟩

/-- Two colons are part of the name. -/
theorem cons_cons (named : IsNamed header name) :
    IsNamed (':' :: ':' :: header) (':' :: ':' :: name) := by
  refine named.append [':', ':'] (fun before after split lone => ?_)
    fun inner after lone => isLone_cons_cons_iff.mpr lone
  match before, split with
  | [], split =>
    -- The first of the two has the other behind it.
    exact absurd (by simp [← (List.cons.inj split).2]) lone.last
  | [d], split =>
    -- The second of the two has the other before it.
    obtain ⟨rfl, -⟩ := List.cons.inj split
    exact absurd lone.paired (by decide)
  | d :: e :: inner, split =>
    obtain ⟨rfl, more⟩ := List.cons.inj split
    obtain ⟨rfl, -⟩ := List.cons.inj more
    exact ⟨inner, rfl, isLone_cons_cons_iff.mp lone⟩

/-- A lone colon ends the name. -/
theorem nil_of_colon {rest : Text} (single : rest.head? ≠ some ':') : IsNamed (':' :: rest) [] :=
  .based rfl ⟨by decide, single⟩ fun _ _ _ _ => Nat.zero_le _

/-- A header starts with its name. -/
theorem isPrefix (named : IsNamed header name) : name <+: header := by
  cases named with
  | whole => exact List.prefix_rfl
  | based split => exact ⟨_, split.symm⟩

end IsNamed

/-- The walk to the first lone colon comes to the end of the name. -/
theorem isNamed_beforeLoneColon (header : Text) :
    IsNamed header ((beforeLoneColon header).getD header) := by
  -- The walk passes colons two by two, so it stops at one behind an even number of them.
  fun_induction beforeLoneColon header with
  | case1 => exact .whole (by simp)
  | case2 rest ih => simpa using ih.cons_cons
  | case3 rest single =>
    refine IsNamed.nil_of_colon fun first => ?_
    obtain ⟨more, rfl⟩ := List.head?_eq_some_iff.mp first
    exact single more rfl rfl
  | case4 c rest single other ih => simpa using ih.cons other

/-- All colons of a name are between segments without colons. -/
theorem exists_segments (header : Text) : ∃ segments : List Text, segments ≠ [] ∧
    (∀ segment ∈ segments, ':' ∉ segment) ∧
      (beforeLoneColon header).getD header = ScopedName.ofSegments segments := by
  -- Two colons start a segment, and all other characters go to the segment behind them.
  fun_induction beforeLoneColon header with
  | case1 => exact ⟨[[]], by simp, by simp, rfl⟩
  | case2 rest ih =>
    obtain ⟨segments, nonempty, plain, same⟩ := ih
    refine ⟨[] :: segments, by simp, by simpa using plain, ?_⟩
    simp [same, ScopedName.ofSegments, Text.join_cons _ _ nonempty, ScopedName.separator]
  | case3 rest single => exact ⟨[[]], by simp, by simp, rfl⟩
  | case4 c rest single other ih =>
    obtain ⟨segments, nonempty, plain, same⟩ := ih
    obtain ⟨segment, more, rfl⟩ := List.exists_cons_of_ne_nil nonempty
    obtain ⟨first, others⟩ := List.forall_mem_cons.mp plain
    refine ⟨(c :: segment) :: more, by simp, ?_, ?_⟩
    · exact List.forall_mem_cons.mpr ⟨by simp [first, Ne.symm other], others⟩
    · rw [ScopedName.ofSegments, Text.join_cons_cons, ← ScopedName.ofSegments, ← same]
      simp

/-- The full name that a name in a header stands for: its segments, each without the blanks around
it, with separators between them. -/
def IsRejoined (name full : Text) : Prop :=
  ∃ segments : List Text, segments ≠ [] ∧ (∀ segment ∈ segments, ':' ∉ segment) ∧
    name = ScopedName.ofSegments segments ∧ full = ScopedName.ofSegments (segments.map Text.trim)

namespace IsRejoined

variable {name full : Text}

/-- The segments are those that the name is cut into. -/
theorem eq (rejoined : IsRejoined name full) :
    full = ScopedName.ofSegments ((ScopedName.segments name).map Text.trim) := by
  obtain ⟨segments, nonempty, plain, rfl, rfl⟩ := rejoined
  rw [ScopedName.segments_ofSegments nonempty plain]

/-- Blanks after a name are blanks after its last segment. -/
theorem trimEnd (rejoined : IsRejoined name full) : IsRejoined (Text.trimEnd name) full := by
  obtain ⟨segments, nonempty, plain, rfl, rfl⟩ := rejoined
  -- Only the last segment ends at the end of the name.
  obtain ⟨init, last, rfl⟩ : ∃ init last, segments = init ++ [last] :=
    ⟨_, _, (List.dropLast_append_getLast nonempty).symm⟩
  obtain ⟨plainInit, plainLast⟩ := List.forall_mem_append.mp plain
  have plainLeft : ':' ∉ Text.trimEnd last := fun member =>
    plainLast last (by simp) ((Text.trimEnd_isPrefix last).subset member)
  refine ⟨init ++ [Text.trimEnd last], by simp,
    List.forall_mem_append.mpr ⟨plainInit, by simpa using plainLeft⟩, ?_,
    by simp [Text.trim_trimEnd]⟩
  -- Without modules the name is its last segment.
  by_cases alone : init = []
  · simp [alone, ScopedName.ofSegments, Text.join]
  · -- The colon before the last segment is no blank.
    have joined (piece : Text) : ScopedName.ofSegments (init ++ [piece]) =
        (ScopedName.ofSegments init ++ [':']) ++ ':' :: piece := by
      simp [ScopedName.ofSegments, Text.join_append _ alone, Text.join, ScopedName.separator]
    rw [joined, joined, Text.trimEnd_append_cons (by decide)]

end IsRejoined

/-- The name in a trimmed header is what is left of it without the base clause, but for the blanks
before the colon. -/
theorem IsNamed.stripBase {head name : Text} (named : IsNamed (Text.trim head) name) :
    Declaration.stripBase (Text.trim head) = Text.trimEnd name := by
  obtain rfl := named.unique (isNamed_beforeLoneColon _)
  rw [Declaration.stripBase]
  -- A header without a base clause has no blanks at its end.
  cases beforeLoneColon (Text.trim head) with
  | none => exact (Text.trimEnd_of_last (Text.isTrimmed_trim head).2).symm
  | some name => rfl

/-- A name in a trimmed header is not only blanks. -/
theorem IsNamed.trimEnd_ne_nil {head name : Text} (named : IsNamed (Text.trim head) name)
    (nonempty : name ≠ []) : Text.trimEnd name ≠ [] := by
  obtain ⟨more, whole⟩ := named.isPrefix
  -- A trimmed header starts with no blank, and so does the name at its start.
  refine Text.trimEnd_ne_nil nonempty fun c first => (Text.isTrimmed_trim head).1 c ?_
  rw [← whole, List.head?_append_of_ne_nil _ nonempty]
  exact first

/-- The parts of a read declaration have the name that its segments are joined to. -/
theorem fullName_eq (annotations members : List Text) {parts : List Text} (nonempty : parts ≠ []) :
    fullName ⟨annotations, parts.dropLast, parts.getLast?.getD [], members⟩ =
      ScopedName.ofSegments parts := by
  rw [fullName, List.getLast?_eq_some_getLast nonempty, Option.getD_some,
    List.dropLast_append_getLast]

/-! ## The verdict -/

/-- The header behind the first keyword of a text, and the body behind the brace that ends it. -/
structure HasHeader (text head body : Text) : Prop where
  opens : ∃ before, OpensAt text before (head ++ '{' :: body)
  unopened : '{' ∉ head

/-- A text declares a full name: it has a header with a name in it, and its body is closed. -/
def Declares (text full : Text) : Prop :=
  ∃ head body name, HasHeader text head body ∧ IsNamed (Text.trim head) name ∧ name ≠ [] ∧
    ['}', ';'] <:+: body ∧ IsRejoined name full

/-- What is made of a text: a reason why it is not understood, or the name that it declares. -/
inductive Verdict (text : Text) : Except Unsupported Text → Prop
  | noDeclaration (unopened : ∀ before behind, ¬ OpensAt text before behind) :
    Verdict text (.error .noDeclaration)
  | noOpeningBrace {before behind : Text} (opens : OpensAt text before behind)
    (unopened : '{' ∉ behind) : Verdict text (.error .noOpeningBrace)
  | noName {head body : Text} (header : HasHeader text head body)
    (unnamed : IsNamed (Text.trim head) []) : Verdict text (.error .noName)
  | noClosingBrace {head body name : Text} (header : HasHeader text head body)
    (named : IsNamed (Text.trim head) name) (nonempty : name ≠ [])
    (unclosed : ¬ ['}', ';'] <:+: body) : Verdict text (.error .noClosingBrace)
  | declared {full : Text} (declares : Declares text full) : Verdict text (.ok full)

/-- The verdict is against a text exactly for the four reasons. -/
theorem exists_error_iff {text : Text} : (∃ fault, Verdict text (.error fault)) ↔
    (∀ before behind, ¬ OpensAt text before behind) ∨
    (∃ before behind, OpensAt text before behind ∧ '{' ∉ behind) ∨
    ∃ head body, HasHeader text head body ∧
      (IsNamed (Text.trim head) [] ∨ ¬ ['}', ';'] <:+: body) := by
  constructor
  · rintro ⟨fault, given⟩
    -- Each fault states one of the reasons, and each reason gives its fault.
    cases given with
    | noDeclaration unopened => exact .inl unopened
    | noOpeningBrace opens unopened => exact .inr (.inl ⟨_, _, opens, unopened⟩)
    | noName header unnamed => exact .inr (.inr ⟨_, _, header, .inl unnamed⟩)
    | noClosingBrace header _ _ unclosed => exact .inr (.inr ⟨_, _, header, .inr unclosed⟩)
  · rintro (unopened | ⟨before, behind, opens, unopened⟩ | ⟨head, body, header, unnamed | unclosed⟩)
    · exact ⟨_, .noDeclaration unopened⟩
    · exact ⟨_, .noOpeningBrace opens unopened⟩
    · exact ⟨_, .noName header unnamed⟩
    · have named := isNamed_beforeLoneColon (Text.trim head)
      generalize (beforeLoneColon (Text.trim head)).getD (Text.trim head) = name at named
      -- Without a name no closing brace is looked for.
      by_cases empty : name = []
      · exact ⟨_, .noName header (empty ▸ named)⟩
      · exact ⟨_, .noClosingBrace header named empty unclosed⟩

/-- Every text has a verdict. -/
theorem exists_verdict (text : Text) : ∃ verdict, Verdict text verdict := by
  by_cases refused : ∃ fault, Verdict text (.error fault)
  · obtain ⟨fault, given⟩ := refused
    exact ⟨_, given⟩
  -- None of the four reasons holds.
  rw [exists_error_iff] at refused
  push Not at refused
  obtain ⟨⟨before, behind, opens⟩, braced, closed⟩ := refused
  obtain ⟨⟨head, body⟩, broken⟩ := Option.ne_none_iff_exists'.mp
    (Text.breakAt?_eq_none_iff.not.mpr (not_not.mpr (braced before behind opens)))
  obtain ⟨absent, rfl⟩ := Text.of_breakAt? broken
  have header : HasHeader text head body := ⟨⟨before, opens⟩, absent⟩
  obtain ⟨named, ended⟩ := closed head body header
  obtain ⟨segments, some, plain, same⟩ := exists_segments (Text.trim head)
  have found := isNamed_beforeLoneColon (Text.trim head)
  refine ⟨_, .declared ⟨head, body, _, header, found, fun empty => named (empty ▸ found), ended,
    segments, some, plain, same, rfl⟩⟩

/-- The header is what reading takes for it, without the blanks at its start. -/
theorem HasHeader.broken {text head body : Text} (header : HasHeader text head body) :
    ∃ leading remaining, breakAtKeyword? false text = some (leading, remaining) ∧
      Text.breakAt? '{' remaining = some (Text.trimStart head, body) := by
  obtain ⟨⟨before, opens⟩, absent⟩ := header
  -- Cutting blanks off the start adds no brace.
  have still : '{' ∉ Text.trimStart head := fun member =>
    absent ((List.dropWhile_suffix isBlank).subset member)
  refine ⟨before, _, opens.breakAtKeyword?, ?_⟩
  rw [Text.trimStart_append_cons (by decide), Text.breakAt?_append still]

/-- Reading a text comes to its verdict. -/
theorem Verdict.read {idl : Text} {verdict : Except Unsupported Text}
    (given : Verdict (dropUnbounded idl) verdict) :
    (Declaration.read idl).map fullName = verdict := by
  have refused (fault : Unsupported) :
      (throw fault : Except Unsupported Declaration) = .error fault := rfl
  -- Each verdict fixes every step of the reading, so the reading is computed along it.
  cases given with
  | noDeclaration unopened =>
    simp [Declaration.read, breakAtKeyword?_eq_none unopened, refused, Except.map]
  | noOpeningBrace opens unopened =>
    have unbroken := Text.breakAt?_eq_none_iff.mpr fun member =>
      unopened ((List.dropWhile_suffix isBlank).subset member)
    simp [Declaration.read, opens.breakAtKeyword?, Text.trimStart, unbroken, refused, Except.map]
  | noName header unnamed =>
    obtain ⟨leading, remaining, opened, broken⟩ := header.broken
    have empty : (stripBase (Text.trim _)).isEmpty = true :=
      congrArg List.isEmpty unnamed.stripBase
    simp [Declaration.read, opened, broken, Text.trim_trimStart, empty, throw, throwThe,
      MonadExceptOf.throw, bind, Except.bind, Except.map]
  | noClosingBrace header named nonempty unclosed =>
    obtain ⟨leading, remaining, opened, broken⟩ := header.broken
    have present := named.trimEnd_ne_nil nonempty
    have unbroken : Text.breakOn? ['}', ';'] _ = none :=
      Option.not_isSome_iff_eq_none.mp fun found => unclosed (Text.infix_of_occursIn found)
    simp [Declaration.read, opened, broken, Text.trim_trimStart, named.stripBase, present, unbroken,
      refused, Except.map]
  | declared declares =>
    obtain ⟨head, body, name, header, named, nonempty, closed, rejoined⟩ := declares
    obtain ⟨leading, remaining, opened, broken⟩ := header.broken
    have present := named.trimEnd_ne_nil nonempty
    -- The closing brace is there, so the last step of the reading succeeds, too.
    obtain ⟨⟨inside, rest⟩, found⟩ := Option.isSome_iff_exists.mp (Text.occursIn_of_infix closed)
    -- A name has at least one segment, the last of which is the name proper.
    have segmented : (ScopedName.segments (Text.trimEnd name)).map Text.trim ≠ [] := fun empty =>
      Text.cutAll_ne_nil _ _ (List.map_eq_nil_iff.mp empty)
    have same (annotations members : List Text) :=
      (fullName_eq annotations members segmented).trans rejoined.trimEnd.eq.symm
    simp [Declaration.read, opened, broken, Text.trim_trimStart, named.stripBase, present, found,
      Except.map, pure, Except.pure, -List.getLast?_map, same]

/-- A text has one verdict, since reading it comes to whichever it has. -/
theorem Verdict.unique {idl : Text} {one other : Except Unsupported Text}
    (first : Verdict (dropUnbounded idl) one) (second : Verdict (dropUnbounded idl) other) :
    one = other :=
  first.read.symm.trans second.read

end Declaration

namespace DetectedType

/-- What is not understood is passed on. -/
theorem detect_of_error (fullName : Text) {idl : Text} {fault : Unsupported}
    (refused : (Declaration.read idl).map Declaration.fullName = .error fault) :
    detect fullName idl = .ok ⟨fullName, idl, none⟩ := by
  cases read : Declaration.read idl with
  | error => rw [detect, read]
  | ok declaration => simp [read, Except.map] at refused

/-- What declares the reported name is understood, and what declares another one is refused. -/
theorem detect_of_ok (fullName : Text) {idl declared : Text}
    (understood : (Declaration.read idl).map Declaration.fullName = .ok declared) :
    (declared = fullName ∧ ∃ declaration,
      detect fullName idl = .ok ⟨fullName, idl, some declaration⟩) ∨
    (declared ≠ fullName ∧ detect fullName idl = .error (.identity fullName declared)) := by
  cases read : Declaration.read idl with
  | error => simp [read, Except.map] at understood
  | ok declaration =>
    obtain rfl : declaration.fullName = declared := by simpa [read, Except.map] using understood
    -- The declared name is compared with the reported one only here.
    rw [detect, read]
    by_cases same : declaration.fullName = fullName
    · exact .inl ⟨same, declaration, if_pos same⟩
    · exact .inr ⟨same, if_neg same⟩

end DetectedType

open Declaration in
/-- A text is passed on as it is exactly if no keyword stands in it, no brace follows the first one,
no name is before that brace, or nothing behind the brace closes the body. A text that has all these
is refused exactly if the name that it declares is another than the one reported, and else
understood. -/
theorem DetectedType.detect_verdict (fullName idl : Text) :
    let text := Text.replace ",2147483647>".toList ['>'] (Text.replace "<2147483647>".toList [] idl)
    ((∃ type, detect fullName idl = .ok type ∧ type.isParsed = false) ↔
      (∀ before behind, ¬ OpensAt text before behind) ∨
      (∃ before behind, OpensAt text before behind ∧ '{' ∉ behind) ∨
      ∃ head body, HasHeader text head body ∧
        (IsNamed (Text.trim head) [] ∨ ¬ ['}', ';'] <:+: body)) ∧
    (∀ fault, detect fullName idl = .error fault ↔
      ∃ declared, Declares text declared ∧ declared ≠ fullName ∧
        fault = .identity fullName declared) ∧
    ((∃ type, detect fullName idl = .ok type ∧ type.isParsed = true) ↔ Declares text fullName) ∧
    ∀ type, detect fullName idl = .ok type → type.isParsed = false →
      type.name = fullName ∧ type.modules = [] ∧ type.members = [] ∧ type.annotations = [] ∧
        type.references = [] ∧ ∀ layout, type.print layout = idl := by
  rw [← dropUnbounded_eq]
  intro text
  rw [← exists_error_iff]
  obtain ⟨verdict, given⟩ := exists_verdict text
  cases verdict with
  | error fault =>
    have found := detect_of_error fullName given.read
    -- A text that is refused declares nothing.
    have undeclared (declared : Text) : ¬ Declares text declared := fun declares => by
      cases (Verdict.declared declares).unique given
    refine ⟨⟨fun _ => ⟨fault, given⟩, fun _ => ⟨_, found, rfl⟩⟩, fun other => ?_, ?_,
      fun type again _ => ?_⟩
    · simp [found, undeclared]
    · simp [found, undeclared, isParsed]
    · obtain rfl := Except.ok.inj (found.symm.trans again)
      exact ⟨rfl, rfl, rfl, rfl, rfl, fun _ => rfl⟩
  | ok declared =>
    have declares : Declares text declared := by
      cases given
      assumption
    -- A text that declares a name is not refused, and it declares no other name.
    have agrees (fault : Unsupported) : ¬ Verdict text (.error fault) := fun against => by
      cases against.unique given
    have unique {other : Text} (again : Declares text other) : other = declared :=
      Except.ok.inj ((Verdict.declared again).unique given)
    rcases detect_of_ok fullName (Verdict.declared declares).read with
      ⟨rfl, declaration, found⟩ | ⟨differs, found⟩
    · refine ⟨by simp [found, agrees, isParsed], fun fault => ?_, ?_, by simp [found, isParsed]⟩
      · rw [found]
        refine ⟨nofun, fun ⟨other, again, differs, _⟩ => absurd (unique again) differs⟩
      · exact ⟨fun _ => declares, fun _ => ⟨_, found, rfl⟩⟩
    · refine ⟨by simp [found, agrees], fun fault => ?_, ?_, by simp [found]⟩
      · rw [found]
        constructor
        · rintro ⟨rfl⟩
          exact ⟨declared, declares, differs, rfl⟩
        · rintro ⟨other, again, -, rfl⟩
          rw [unique again]
      · have undeclared : ¬ Declares text fullName := fun again => differs (unique again).symm
        simp [found, undeclared]

end IdlScout
