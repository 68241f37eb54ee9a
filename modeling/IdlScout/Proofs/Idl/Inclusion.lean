import IdlScout.Idl.Cleanup
import IdlScout.Proofs.Idl.Reprint
import IdlScout.Proofs.Idl.Spelling
import IdlScout.Proofs.Text.Firsts

/-! Inclusions before a printed type, as a preprocessor goes over them: a guard that two types share
leaves out the file of the second one. -/

namespace IdlScout

/-- A directive of the preprocessor. -/
inductive Directive where
  | ifUndefined (name : Text)
  | define (name : Text)
  | inclusion (path : Text)
  | endIf
  deriving Repr, DecidableEq

namespace Directive

/-- The directive of a word and what stands behind it. -/
def ofWord? (word operand : Text) : Option Directive :=
  -- What follows the name of a condition or a definition does not matter here.
  if word = "ifndef".toList then some (.ifUndefined (operand.takeWhile isWord))
  else if word = "define".toList then some (.define (operand.takeWhile isWord))
  else if word = "include".toList then (Cleanup.includedPath? operand).map .inclusion
  else if word = "endif".toList then some .endIf
  else none

/-- The directive on a line, if it is no line of text. -/
def ofLine? (line : Text) : Option Directive :=
  match Text.trimStart line with
  | '#' :: rest => ofWord? (rest.takeWhile isWord) (Text.trimStart (rest.dropWhile isWord))
  | _ => none

end Directive

/-- What a preprocessor knows on its way over a text. -/
structure Preprocessor where
  defined : List Text := []
  /-- Whether each open condition holds, the innermost first. -/
  conditions : List Bool := []
  /-- The paths of the files that were included, in order. -/
  included : List Text := []
  deriving Repr, DecidableEq

namespace Preprocessor

/-- A directive counts where all open conditions hold. -/
def active (state : Preprocessor) : Bool :=
  state.conditions.all id

/-- One directive is obeyed. -/
def obey (state : Preprocessor) : Directive → Preprocessor
  -- Conditions are opened and closed even where nothing else counts.
  | .ifUndefined name =>
    { state with conditions := (!state.defined.contains name) :: state.conditions }
  | .endIf => { state with conditions := state.conditions.tail }
  | .define name => if state.active then { state with defined := name :: state.defined } else state
  | .inclusion path =>
    if state.active then { state with included := state.included ++ [path] } else state

/-- A text is gone over line by line, with nothing defined at first. -/
def run (text : Text) : Preprocessor :=
  ((Text.lines text).filterMap Directive.ofLine?).foldl obey {}

end Preprocessor

/-- The file of a type, as an inclusion names it. -/
def ScopedName.fileName (flat : Bool) (name : Text) : Text :=
  path name flat ++ ".idl".toList

/-- Two names with one guard. -/
def ScopedName.sharesGuard (a b : Text) : Bool :=
  guard a == guard b

/-! ## From lines to directives -/

namespace Directive

/-- A directive is read behind a margin and a number sign, and its word ends at the first space. -/
theorem ofLine?_of_word {margin word : Text} (blank : IsBlankText margin)
    (isWordText : IsWordText word) (operand : Text) :
    ofLine? (margin ++ '#' :: (word ++ ' ' :: operand)) =
      ofWord? word (Text.trimStart operand) := by
  -- The margin is skipped, the word is taken up to the space, and the blanks behind it go.
  have shown : Text.trimStart (margin ++ '#' :: (word ++ ' ' :: operand)) =
      '#' :: (word ++ ' ' :: operand) := Text.trimStart_append blank _
  have ends : isWord ' ' = false := by decide
  have taken : (word ++ ' ' :: operand).takeWhile isWord = word := by
    rw [List.takeWhile_append_of_pos isWordText, List.takeWhile_cons_of_neg (by simp [ends]),
      List.append_nil]
  have left : (word ++ ' ' :: operand).dropWhile isWord = ' ' :: operand := by
    rw [List.dropWhile_append_of_pos isWordText, List.dropWhile_cons_of_neg (by simp [ends])]
  have space : Text.trimStart (' ' :: operand) = Text.trimStart operand :=
    Text.trimStart_append (by decide : IsBlankText [' ']) operand
  simp only [ofLine?, shown, taken, left, space]

/-- The path of an inclusion is all that stands between its quotes. -/
theorem includedPath?_quoted {path : Text} (unquoted : '"' ∉ path) :
    Cleanup.includedPath? ('"' :: (path ++ ['"'])) = some path := by
  -- The first quote stands at the start and the second one ends the path.
  have opened := Text.breakAt?_append (List.not_mem_nil (a := '"')) (path ++ ['"'])
  have closed := Text.breakAt?_append unquoted []
  rw [List.nil_append] at opened
  simp [Cleanup.includedPath?, opened, closed]

/-- The line of a name with its path is read as the inclusion of its file. -/
theorem ofLine?_inclusion {margin name : Text} (blank : IsBlankText margin)
    (word : ∀ segment ∈ ScopedName.segments name, IsWordText segment) (flat : Bool) :
    ofLine? (margin ++ ("#include \"".toList ++ ScopedName.path name flat ++ ".idl\"".toList)) =
      some (.inclusion (ScopedName.fileName flat name)) := by
  -- A path has no signs but those of the segments, slashes and underscores.
  have unquoted : '"' ∉ ScopedName.fileName flat name := by
    intro inside
    rcases List.mem_append.mp inside with inPath | ending
    · rcases ScopedName.of_mem_path inPath with below | slash | ⟨segment, listed, inSegment⟩
      · exact absurd below (by decide)
      · exact absurd slash (by decide)
      · exact absurd (word segment listed _ inSegment) (by decide)
    · exact absurd ending (by decide)
  -- The word of the directive is the third that is tried.
  have path := includedPath?_quoted unquoted
  have read := ofLine?_of_word blank (by decide : IsWordText "include".toList)
    ('"' :: (ScopedName.fileName flat name ++ ['"']))
  have quoted : Text.trimStart ('"' :: (ScopedName.fileName flat name ++ ['"'])) =
      '"' :: (ScopedName.fileName flat name ++ ['"']) := rfl
  rw [quoted, ofWord?, if_neg (by decide), if_neg (by decide), if_pos rfl, path] at read
  simpa [ScopedName.fileName] using read

/-- The directives that include a type's file. -/
def ofName (flat : Bool) (name : Text) : List Directive :=
  [.ifUndefined (ScopedName.guard name), .define (ScopedName.guard name),
    .inclusion (ScopedName.fileName flat name), .endIf]

/-- The lines that include a type's file are read as its directives. -/
theorem filterMap_includeLines (layout : Layout) {name : Text}
    (qualified : ScopedName.isScoped name = true)
    (word : ∀ segment ∈ ScopedName.segments name, IsWordText segment) (flat : Bool) :
    ((Declaration.includeLines flat name).map fun line =>
      layout.margin line.level ++ line.text).filterMap ofLine? = ofName flat name := by
  have margin := layout.margin_blank 0
  have guarding := ScopedName.isIdentifier_guard qualified word
  have guarded : Text.trimStart (ScopedName.guard name) = ScopedName.guard name :=
    Text.trimStart_of_head guarding.isTrimmed.1
  have whole : (ScopedName.guard name).takeWhile isWord = ScopedName.guard name :=
    List.takeWhile_eq_self_iff.mpr guarding.word
  -- Each of the four lines is read as a directive by its own word.
  have opens : ofLine? (layout.margin 0 ++ ("#ifndef ".toList ++ ScopedName.guard name)) =
      some (.ifUndefined (ScopedName.guard name)) := by
    have read := ofLine?_of_word margin (by decide : IsWordText "ifndef".toList)
      (ScopedName.guard name)
    rwa [guarded, ofWord?, if_pos rfl, whole] at read
  have defines : ofLine? (layout.margin 0 ++ ("#define ".toList ++ ScopedName.guard name)) =
      some (.define (ScopedName.guard name)) := by
    have read := ofLine?_of_word margin (by decide : IsWordText "define".toList)
      (ScopedName.guard name)
    rwa [guarded, ofWord?, if_neg (by decide), if_pos rfl, whole] at read
  have closes : ofLine? (layout.margin 0 ++ ("#endif  // ".toList ++ ScopedName.guard name)) =
      some .endIf :=
    ofLine?_of_word margin (by decide : IsWordText "endif".toList)
      (" // ".toList ++ ScopedName.guard name)
  simp only [Declaration.includeLines, List.map_cons, List.map_nil, List.filterMap_cons,
    List.filterMap_nil, opens, defines, ofLine?_inclusion margin word, closes, ofName]

end Directive

/-! ## Over all directives -/

namespace Preprocessor

/-- The file of a name is included if nothing has defined its guard, which is defined then. -/
theorem foldl_ofName (flat : Bool) (name : Text) {state : Preprocessor}
    (outside : state.conditions = []) :
    (Directive.ofName flat name).foldl obey state =
      if ScopedName.guard name ∈ state.defined then state
      else { state with
        defined := ScopedName.guard name :: state.defined
        included := state.included ++ [ScopedName.fileName flat name] } := by
  obtain ⟨defined, conditions, included⟩ := state
  obtain rfl : conditions = [] := outside
  -- If the guard is known, the three lines inside are skipped; otherwise all are obeyed.
  by_cases known : ScopedName.guard name ∈ defined <;>
    simp [Directive.ofName, obey, active, known]

/-- Of all names, the files of those are included that are the first with their guard, unless it was
defined before. -/
theorem included_foldl (flat : Bool) (names : List Text) {state : Preprocessor}
    (outside : state.conditions = []) :
    ((names.flatMap (Directive.ofName flat)).foldl obey state).included =
      state.included ++ ((Text.firstsBy ScopedName.sharesGuard names).filter fun name =>
        !state.defined.contains (ScopedName.guard name)).map (ScopedName.fileName flat) := by
  -- The first name changes what is defined, so the rest is gone over from any state.
  induction names generalizing state with
  | nil => simp [Text.firstsBy]
  | cons name rest ih =>
    rw [List.flatMap_cons, List.foldl_append, foldl_ofName flat name outside, Text.firstsBy]
    split
    · rename_i known
      rw [ih outside, List.filter_cons_of_neg (by simpa using known), List.filter_filter]
      -- A name with this guard is left out in any case.
      congr 2
      refine List.filter_congr fun other _ => ?_
      by_cases shared : ScopedName.guard name = ScopedName.guard other
      · simp [← shared, known]
      · simp [ScopedName.sharesGuard, shared]
    · rename_i unknown
      have later := @ih { state with
        defined := ScopedName.guard name :: state.defined
        included := state.included ++ [ScopedName.fileName flat name] } outside
      rw [later, List.filter_cons_of_pos (by simpa using unknown), List.filter_filter,
        List.map_cons, List.append_assoc, List.singleton_append]
      congr 3
      refine List.filter_congr fun other _ => ?_
      by_cases shared : ScopedName.guard name = ScopedName.guard other
      · simp [ScopedName.sharesGuard, shared]
      · simp [ScopedName.sharesGuard, shared, Ne.symm shared]

end Preprocessor

namespace ScopedName

/-- In one folder, names with one guard have one file. -/
theorem sharesGuard_flat (a b : Text) : sharesGuard a b = (fileName true a == fileName true b) := by
  have same (name : Text) : fileName true name = guard name ++ ".idl".toList := rfl
  rw [sharesGuard, same, same, Bool.eq_iff_iff, beq_iff_eq, beq_iff_eq]
  exact (List.append_left_inj _).symm

/-- With a folder for each module, names have files of their own. -/
theorem fileName_injective {a b : Text} (plainA : '/' ∉ a) (plainB : '/' ∉ b)
    (same : fileName false a = fileName false b) : a = b :=
  path_injective plainA plainB (List.append_cancel_right same)

/-- The files of the first names with their guards are all files, each once, exactly if no two names
share a guard; in one folder they always are. -/
theorem files_of_firsts_iff (flat : Bool) {names : List Text} (single : names.Nodup)
    (plain : ∀ name ∈ names, '/' ∉ name) :
    (Text.firstsBy sharesGuard names).map (fileName flat) =
        (names.map (fileName flat)).eraseDups ↔
      (flat = false → (names.map guard).Nodup) := by
  -- In one folder a file has the name of its guard, and else a name of its own.
  cases flat with
  | true =>
    have alike : sharesGuard = fun a b => fileName true a == fileName true b :=
      funext fun a => funext fun b => sharesGuard_flat a b
    simp [alike, Text.map_firstsBy]
  | false =>
    have apart : (names.map (fileName false)).Nodup :=
      single.map_on fun a inA b inB => fileName_injective (plain a inA) (plain b inB)
    have guards : (names.map guard).Nodup ↔
        names.Pairwise fun a b => sharesGuard a b = false := by
      simp [List.Nodup, List.pairwise_map, sharesGuard]
    rw [Text.eraseDups_of_nodup apart, guards, ← Text.firstsBy_eq_self_iff]
    refine ⟨fun same _ => ?_, fun all => by rw [all rfl]⟩
    -- As many names are left as there are files.
    refine (Text.firstsBy_sublist sharesGuard names).eq_of_length ?_
    simpa using congrArg List.length same

end ScopedName

namespace Declaration

/-- What is printed before a declaration to include others. -/
def inclusions (declaration : Declaration) (layout : Layout) : Text :=
  layout.print (declaration.dependencies.flatMap (includeLines layout.flat))

/-- The inclusions come first, and all that follows is printed as without them. -/
theorem print_eq_inclusions_append (declaration : Declaration) {layout : Layout}
    (including : layout.includes = true) :
    declaration.print layout =
      declaration.inclusions layout ++ declaration.print { layout with includes := false } := by
  have same (lines : List Line) :
      Layout.print { layout with includes := false } lines = layout.print lines := rfl
  simp [print, lines, including, inclusions, same, Layout.print_append]

/-- The files included before a declaration are those of the first names with their guards. -/
theorem included_over_inclusions {declaration : Declaration} (layout : Layout)
    (word : ∀ reference ∈ declaration.references,
      ∀ segment ∈ ScopedName.segments reference, IsWordText segment) :
    (Preprocessor.run (declaration.inclusions layout)).included =
      (Text.firstsBy ScopedName.sharesGuard declaration.dependencies).map
        (ScopedName.fileName layout.flat) := by
  have passed : ∀ line ∈ declaration.dependencies.flatMap (includeLines layout.flat),
      line.IsPassed := by
    intro line listed
    obtain ⟨name, dependency, inLines⟩ := List.mem_flatMap.mp listed
    obtain ⟨referred, qualified⟩ := of_mem_dependencies dependency
    exact includeLines_isPassed qualified (word name referred) layout.flat line inLines
  -- No name breaks a line, so each printed line is read as one directive.
  have directives : (Text.lines (declaration.inclusions layout)).filterMap Directive.ofLine? =
      declaration.dependencies.flatMap (Directive.ofName layout.flat) := by
    rw [inclusions, layout.lines_print fun line listed => .of_plain (passed line listed).plain,
      List.map_flatMap, List.filterMap_flatMap]
    refine List.flatMap_congr fun name dependency => ?_
    obtain ⟨referred, qualified⟩ := of_mem_dependencies dependency
    exact Directive.filterMap_includeLines layout qualified (word name referred) layout.flat
  -- From the empty state on, each name is included unless its guard was defined by an earlier one.
  have all := Preprocessor.included_foldl layout.flat declaration.dependencies
    (rfl : ({} : Preprocessor).conditions = [])
  rw [Preprocessor.run, directives, all]
  simp

end Declaration

/-- Over what is printed before a type, a preprocessor includes the file of each other type referred
to that is the first with its guard. These are the files of all of them, each once and in order, if
and only if all are in one folder or no two types share a guard. -/
theorem DetectedType.included_before_print {fullName idl : Text} {type : DetectedType}
    (layout : Layout) (found : detect fullName idl = .ok type) (parsed : type.isParsed = true)
    (including : layout.includes = true)
    (word : ∀ reference ∈ type.references, ∀ segment ∈ ScopedName.segments reference,
      IsWordText segment) :
    ∃ inclusions, type.print layout = inclusions ++ type.print { layout with includes := false } ∧
      let others := (type.references.filter (· != type.fullName)).eraseDups
      let included := (Preprocessor.run inclusions).included
      included = (Text.firstsBy ScopedName.sharesGuard others).map
        (ScopedName.fileName layout.flat) ∧
      (included = (others.map (ScopedName.fileName layout.flat)).eraseDups ↔
        (layout.flat = false → (others.map ScopedName.guard).Nodup)) := by
  obtain ⟨declaration, -, present⟩ := read_of_detect found parsed
  have same := fullName_of_detect found present
  have referred : type.references = declaration.references := by simp [references, present]
  rw [referred] at word ⊢
  have others : (declaration.references.filter (· != type.fullName)).eraseDups =
      declaration.dependencies := by rw [← same, Declaration.dependencies]
  -- A name is made of word characters and colons, none of which is the slash of a path.
  have plain : ∀ name ∈ declaration.dependencies, '/' ∉ name := by
    intro name listed inside
    rw [← ScopedName.ofSegments_segments name] at inside
    rcases ScopedName.mem_ofSegments inside with colon | ⟨segment, inName, inSegment⟩
    · exact absurd colon (by decide)
    · exact absurd (word name (Declaration.of_mem_dependencies listed).1 segment inName _ inSegment)
        (by decide)
  refine ⟨declaration.inclusions layout, ?_, ?_⟩
  · simp only [print, present]
    exact declaration.print_eq_inclusions_append including
  · have included := Declaration.included_over_inclusions layout word
    simp only [others, included, true_and]
    exact ScopedName.files_of_firsts_iff layout.flat (Text.nodup_eraseDups _) plain

/-- Of a type referred to twice the file is included once, and of the type itself never. -/
theorem DetectedType.included_before_print_of_two_types :
    ∃ type inclusions,
      detect "a::T".toList
        "struct a::T \x7b b::C c; sequence<e::F> f; a::T t; b::C d; \x7d;".toList = .ok type ∧
      type.print { includes := true } = inclusions ++ type.print {} ∧
      (Preprocessor.run inclusions).included = ["b/C.idl".toList, "e/F.idl".toList] := by
  have found : detect "a::T".toList
      "struct a::T \x7b b::C c; sequence<e::F> f; a::T t; b::C d; \x7d;".toList =
        .ok ⟨"a::T".toList,
          "struct a::T \x7b b::C c; sequence<e::F> f; a::T t; b::C d; \x7d;".toList,
          some ⟨[], [['a']], ['T'], ["b::C c".toList, "sequence<e::F> f".toList, "a::T t".toList,
            "b::C d".toList]⟩⟩ := by decide +kernel
  obtain ⟨inclusions, printed, -, all⟩ := included_before_print { includes := true } found rfl rfl
    (by decide +kernel)
  have complete := all.mpr fun _ => by decide +kernel
  exact ⟨_, inclusions, found, printed, complete.trans (by decide +kernel)⟩

/-- The names of two types that differ in their modules become one guard, and the file of the second
is not included. -/
theorem DetectedType.inclusion_lost_to_shared_guard :
    ∃ type inclusions,
      detect "S".toList "struct S \x7b a::b_c x; a_b::c y; \x7d;".toList = .ok type ∧
      type.references = ["a::b_c".toList, "a_b::c".toList] ∧
      type.print { includes := true } = inclusions ++ type.print {} ∧
      (Preprocessor.run inclusions).included = ["a/b_c.idl".toList] := by
  refine ⟨⟨"S".toList, "struct S \x7b a::b_c x; a_b::c y; \x7d;".toList,
    some ⟨[], [], ['S'], ["a::b_c x".toList, "a_b::c y".toList]⟩⟩,
    ("#ifndef a_b_c\n#define a_b_c\n#include \"a/b_c.idl\"\n#endif  // a_b_c\n" ++
      "#ifndef a_b_c\n#define a_b_c\n#include \"a_b/c.idl\"\n#endif  // a_b_c\n").toList, ?_⟩
  decide +kernel

end IdlScout
