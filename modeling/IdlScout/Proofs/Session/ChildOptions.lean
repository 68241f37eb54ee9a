import IdlScout.Proofs.Files.RawPath
import IdlScout.Proofs.Text.Firsts
import IdlScout.Session.ChildCommand

/-! The child's command line as the child reads it: option after option, where the value of an
option is never looked at as an option. What the settings ask for is read back from it, with the
paths as they are shown. -/

namespace IdlScout

/-- An option of the child that takes no value. -/
inductive ChildFlag where
  | swap
  | verbose
  | mangle
  deriving Repr, DecidableEq

/-- An option of the child that takes the next argument for its value. -/
inductive ChildSetting where
  | input
  | filter
  | rawFilter
  | domain
  | compatibility
  | replyNaming
  deriving Repr, DecidableEq

/-- How an option without a value is written. -/
def ChildFlag.spelling : ChildFlag → Text
  | .swap => "-W".toList
  | .verbose => "-v".toList
  | .mangle => "-m".toList

/-- How an option is written before its value. -/
def ChildSetting.spelling : ChildSetting → Text
  | .input => "-i".toList
  | .filter => "-f".toList
  | .rawFilter => "-F".toList
  | .domain => "-d".toList
  | .compatibility => "--compatibility-mode".toList
  | .replyNaming => "--request-reply-mapping".toList

/-- An option on a command line, with its value if it takes one. -/
inductive ChildOption where
  | given (flag : ChildFlag)
  | set (setting : ChildSetting) (value : Text)
  deriving Repr, DecidableEq

/-- A middleware is told by its name. -/
theorem Compatibility.ofName?_name (middleware : Compatibility) :
    ofName? middleware.name = some middleware := by
  cases middleware <;> decide

/-- A naming scheme is told by its name. -/
theorem ReplyNaming.ofName?_name (naming : ReplyNaming) : ofName? naming.name = some naming := by
  cases naming <;> decide

namespace ChildOption

/-- The arguments that an option is written as. -/
def arguments : ChildOption → List Text
  | given flag => [flag.spelling]
  | set setting value => [setting.spelling, value]

/-- The option without a value of a spelling. -/
def flag? (argument : Text) : Option ChildFlag :=
  [.swap, .verbose, .mangle].find? (·.spelling == argument)

/-- The option with a value of a spelling. -/
def setting? (argument : Text) : Option ChildSetting :=
  [.input, .filter, .rawFilter, .domain, .compatibility, .replyNaming].find?
    (·.spelling == argument)

/-- The options of some arguments from left to right, if nothing else is among the arguments. -/
def read? : List Text → Option (List ChildOption)
  | [] => some []
  | argument :: rest =>
    match flag? argument, setting? argument, rest with
    | some flag, _, rest => (read? rest).map (given flag :: ·)
    -- The next argument is the value, whatever it looks like.
    | none, some setting, value :: rest => (read? rest).map (set setting value :: ·)
    | none, some _, [] => none
    | none, none, _ => none

/-- How often an option without a value is given. -/
def count (flag : ChildFlag) (options : List ChildOption) : Nat :=
  List.count (given flag) options

/-- The value of an option, if it is the one asked for. -/
def value? (setting : ChildSetting) : ChildOption → Option Text
  | given _ => none
  | set other value => if other = setting then some value else none

/-- The values that an option is given, in order. -/
def values (setting : ChildSetting) (options : List ChildOption) : List Text :=
  options.filterMap (value? setting)

/-! ## What is written is read -/

/-- An option without a value is told by its spelling. -/
theorem flag?_spelling (flag : ChildFlag) : flag? flag.spelling = some flag := by
  cases flag <;> decide

/-- An option with a value is told by its spelling, which is that of no other option. -/
theorem setting?_spelling (setting : ChildSetting) :
    flag? setting.spelling = none ∧ setting? setting.spelling = some setting := by
  cases setting <;> decide

/-- Options are read back from their arguments, whatever their values are. -/
theorem read?_arguments (options : List ChildOption) :
    read? (options.flatMap arguments) = some options := by
  induction options with
  | nil => rfl
  | cons option rest ih =>
    rw [List.flatMap_cons]
    cases option with
    | given flag => simp [arguments, read?, flag?_spelling, ih]
    | set setting value =>
      -- The value is passed over together with the option before it.
      obtain ⟨noFlag, found⟩ := setting?_spelling setting
      simp [arguments, read?, noFlag, found, ih]

/-- A value that looks like an option is a value. -/
example : read? ["-f".toList, "-W".toList, "-W".toList] =
    some [set .filter "-W".toList, given .swap] := by
  decide

/-! ## What options give -/

@[simp] theorem count_append (flag : ChildFlag) (before after : List ChildOption) :
    count flag (before ++ after) = count flag before + count flag after :=
  List.count_append

@[simp] theorem values_append (setting : ChildSetting) (before after : List ChildOption) :
    values setting (before ++ after) = values setting before ++ values setting after :=
  List.filterMap_append

/-- A flag counts as often as it is given. -/
@[simp] theorem count_replicate (flag other : ChildFlag) (times : Nat) :
    count flag (List.replicate times (given other)) = if other = flag then times else 0 := by
  simp [count, List.count_replicate]

/-- No flag is given by values. -/
@[simp] theorem count_map_set (flag : ChildFlag) (setting : ChildSetting) (given : List Text) :
    count flag (given.map (set setting)) = 0 := by
  simp [count, List.count_eq_zero]

/-- No value is given by flags. -/
@[simp] theorem values_replicate (setting : ChildSetting) (flag : ChildFlag) (times : Nat) :
    values setting (List.replicate times (given flag)) = [] := by
  simp [values, value?]

/-- The values of one option are none of another. -/
@[simp] theorem values_map_set (setting other : ChildSetting) (given : List Text) :
    values setting (given.map (set other)) = if other = setting then given else [] := by
  split
  · -- Every value is one of this option.
    rename_i same
    simp [values, List.filterMap_map, Function.comp_def, value?, same]
  · rename_i different
    simp [values, List.filterMap_map, Function.comp_def, value?, different]

end ChildOption

namespace Settings

open ChildOption (given set arguments count values)

/-- What the settings ask of the child, in the order of its command line. -/
def childOptions (settings : Settings) (openInput : Bool) : List ChildOption :=
  List.replicate settings.swapOutputs.toNat (given .swap) ++
    (if openInput then [standardInput] else []).map (set .input) ++
    settings.filter.toList.map (set .filter) ++
    settings.rawFilter.toList.map (set .rawFilter) ++
    List.replicate settings.childVerbosity (given .verbose) ++
    (settings.compatibility.map (·.name)).toList.map (set .compatibility) ++
    (settings.replyNaming.map (·.name)).toList.map (set .replyNaming) ++
    List.replicate settings.mangle.toNat (given .mangle) ++
    settings.childDomains.map (set .domain) ++
    settings.childInputs.map (set .input)

/-- A flag is written if it is given. -/
theorem flagOption_eq (flag : ChildFlag) {option : String} (spelled : option.toList = flag.spelling)
    (isGiven : Bool) :
    flagOption option isGiven = (List.replicate isGiven.toNat (given flag)).flatMap arguments := by
  cases isGiven <;> simp [flagOption, arguments, spelled]

/-- Each value is written behind its option. -/
theorem eachOption_eq (setting : ChildSetting) {option : String}
    (spelled : option.toList = setting.spelling) (values : List Text) :
    eachOption option values = (values.map (set setting)).flatMap arguments := by
  simp [eachOption, List.flatMap_map, arguments, spelled]

/-- A value is written behind its option, if there is one. -/
theorem valueOption_eq (setting : ChildSetting) {option : String}
    (spelled : option.toList = setting.spelling) (value : Option Text) :
    valueOption option value = (value.toList.map (set setting)).flatMap arguments := by
  cases value <;> simp [valueOption, arguments, spelled]

/-- The command line is the program with the arguments of all that is asked. -/
theorem childCommand_eq (settings : Settings) (executable : RawPath) (openInput : Bool) :
    settings.childCommand executable openInput =
      executable.shown :: (settings.childOptions openInput).flatMap arguments := by
  have verbose (times : Nat) : List.replicate times "-v".toList =
      (List.replicate times (given .verbose)).flatMap arguments := by
    simp [List.flatMap_replicate, arguments, ChildFlag.spelling]
  have standard : valueOption "-i" (if openInput then some standardInput else none) =
      ((if openInput then [standardInput] else []).map (set .input)).flatMap arguments := by
    cases openInput <;> exact valueOption_eq .input rfl _
  -- Each part of the command line is one kind of option, so the parts are rewritten one by one.
  rw [childCommand, flagOption_eq .swap rfl, standard, valueOption_eq .filter rfl,
    valueOption_eq .rawFilter rfl, verbose, valueOption_eq .compatibility rfl,
    valueOption_eq .replyNaming rfl, flagOption_eq .mangle rfl, eachOption_eq .domain rfl,
    eachOption_eq .input rfl]
  simp [childOptions]

/-- The files among the inputs, each where it comes first. -/
def files (settings : Settings) : List RawPath :=
  (settings.inputPaths.filter fun input => !RawPath.same input standardInput).eraseDupsBy
    RawPath.same

/-- Options that say what settings ask of the child: each optional value once if it is set, each
domain where it comes first, and each file as it is shown. -/
structure AreConveyed (settings : Settings) (openInput : Bool) (options : List ChildOption) :
    Prop where
  swapOutputs : count .swap options = settings.swapOutputs.toNat
  filter : values .filter options = settings.filter.toList
  rawFilter : values .rawFilter options = settings.rawFilter.toList
  verbosity : count .verbose options = settings.verbosity - 1
  compatibility : (values .compatibility options).map Compatibility.ofName? =
    settings.compatibility.toList.map some
  replyNaming : (values .replyNaming options).map ReplyNaming.ofName? =
    settings.replyNaming.toList.map some
  mangle : count .mangle options = settings.mangle.toNat
  domains : values .domain options = settings.domains.eraseDups
  /-- Standard input comes first, and only if it is open. -/
  inputs : values .input options =
    (if openInput then [standardInput] else []) ++ settings.files.map RawPath.shown

/-- Each domain is told where it comes first. -/
theorem childDomains_eq (settings : Settings) :
    settings.childDomains = settings.domains.eraseDups :=
  Text.firstsBy_eq_eraseDupsBy id settings.domains

/-- Each file is told where it comes first, and standard input is not among them. -/
theorem childInputs_eq (settings : Settings) :
    settings.childInputs = settings.files.map RawPath.shown := by
  rw [childInputs, RawPath.distinct_eq]
  rfl

/-- The files of inputs that texts spell are those that a text is the first to spell. -/
theorem files_of_spelled {settings : Settings} {texts : List Text}
    (spelled : settings.inputPaths = texts.map RawPath.ofText) :
    settings.files = ((texts.filter fun text => !Path.same text standardInput).eraseDupsBy
      Path.same).map RawPath.ofText := by
  -- Both kinds of paths are told apart in the same way.
  have apart : (fun text => !RawPath.same (RawPath.ofText text) standardInput) =
      fun text => !Path.same text standardInput := by
    funext text
    rw [RawPath.same_ofText]
  rw [files, spelled, List.filter_map, ← RawPath.distinct_eq, RawPath.distinct_map_ofText]
  exact congrArg (fun kept => ((texts.filter kept).eraseDupsBy Path.same).map RawPath.ofText) apart

/-- What the settings ask of the child says so. -/
theorem childOptions_areConveyed (settings : Settings) (openInput : Bool) :
    settings.AreConveyed openInput (settings.childOptions openInput) where
  swapOutputs := by simp [childOptions]
  filter := by simp [childOptions]
  rawFilter := by simp [childOptions]
  verbosity := by simp [childOptions, childVerbosity]
  compatibility := by
    -- A name is read back as the choice that it names.
    have told : values .compatibility (settings.childOptions openInput) =
        (settings.compatibility.map (·.name)).toList := by
      simp [childOptions]
    rw [told]
    cases settings.compatibility <;> simp [Compatibility.ofName?_name]
  replyNaming := by
    have told : values .replyNaming (settings.childOptions openInput) =
        (settings.replyNaming.map (·.name)).toList := by
      simp [childOptions]
    rw [told]
    cases settings.replyNaming <;> simp [ReplyNaming.ofName?_name]
  mangle := by simp [childOptions]
  domains := by simp [childOptions, childDomains_eq]
  inputs := by
    -- The inputs are told by the options themselves, so the rest is what is told.
    have told : values .input (settings.childOptions openInput) =
        (if openInput then [standardInput] else []) ++ settings.childInputs := by
      simp [childOptions]
    rw [told, childInputs_eq]

/-- The child reads its command line without a remainder, and finds in it what the settings ask for,
whatever the values of options look like. Files are told as they are shown. So the files come back
exactly if texts spell them all, and inputs given as texts come back as these texts. -/
theorem childCommand_conveys_spelled (settings : Settings) (executable : RawPath)
    (openInput : Bool) :
    ∃ arguments options,
      settings.childCommand executable openInput = executable.shown :: arguments ∧
      ChildOption.read? arguments = some options ∧ settings.AreConveyed openInput options ∧
      ((values .input options).map RawPath.ofText =
          (if openInput then [RawPath.ofText standardInput] else []) ++ settings.files ↔
        ∀ file ∈ settings.files, file.IsSpelled) ∧
      ∀ texts : List Text, settings.inputPaths = texts.map RawPath.ofText → values .input options =
        (if openInput then [standardInput] else []) ++
          (texts.filter fun text => !Path.same text standardInput).eraseDupsBy Path.same := by
  have conveyed := settings.childOptions_areConveyed openInput
  refine ⟨_, settings.childOptions openInput, settings.childCommand_eq executable openInput,
    ChildOption.read?_arguments _, conveyed, ?_, fun texts spelled => ?_⟩
  · -- Standard input is a text; a file comes back if what it is shown as spells it.
    have standard : (if openInput then [standardInput] else []).map RawPath.ofText =
        if openInput then [RawPath.ofText standardInput] else [] := by
      cases openInput <;> rfl
    have each : settings.files.map (RawPath.ofText ∘ RawPath.shown) = settings.files.map id ↔
        ∀ file ∈ settings.files, RawPath.ofText file.shown = file := List.map_inj_left
    rw [List.map_id] at each
    rw [conveyed.inputs, List.map_append, standard, List.append_cancel_left_eq, List.map_map, each]
    simp only [RawPath.isSpelled_iff]
  · -- Texts are shown as they are.
    have shown : RawPath.shown ∘ RawPath.ofText = id := funext RawPath.shown_ofText
    rw [conveyed.inputs, files_of_spelled spelled, List.map_map, shown, List.map_id]

/-- Two files that the child is told as one: no text spells their paths, and they are shown
alike. -/
theorem childCommand_confuses_files :
    let one : RawPath := ⟨[0xFF]⟩
    let other : RawPath := ⟨[0xFE]⟩
    let told (file : RawPath) : List Text :=
      ({ inputPaths := [file] } : Settings).childCommand "tool".toList false
    RawPath.same one other = false ∧ told one = told other ∧
      ¬ ∃ options, ChildOption.read? (told one).tail = some options ∧
        (values .input options).map RawPath.ofText = [one] := by
  intro one other told
  refine ⟨by decide, by decide, ?_⟩
  rintro ⟨options, found, back⟩
  -- What is read is the replacement character, and that has a path of its own.
  have read : ChildOption.read? (told one).tail =
      some [.given .swap, .set .input [Utf8.replacement]] := by decide
  obtain rfl := Option.some.inj (read.symm.trans found)
  exact absurd back (by decide)

end Settings
end IdlScout
