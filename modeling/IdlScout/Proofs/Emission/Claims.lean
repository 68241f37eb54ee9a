import IdlScout.Proofs.Emission.Opening
import IdlScout.Proofs.Emission.SplitFiles
import IdlScout.Proofs.Files.Respelling

/-! The claims of an output that may not touch what was there before it: nothing was at a path that
it claims for a file, however the path is spelled. -/

namespace IdlScout

/-- Options with which an output leaves alone what is there, with a path that does not climb. -/
structure OutputOptions.IsSparing (options : OutputOptions) : Prop where
  overwrite : options.overwrite = false
  append : options.append = false ∨ options.split = true
  noClimb : ∀ path, options.path = some path → "..".toList ∉ Path.names path

namespace Emitter

/-- A type with a proper name whose file in the current folder is not at the output's own path. -/
structure Admits (options : OutputOptions) (start : FileTree) (detected : DetectedType) : Prop where
  proper : IsScopedName detected.fullName
  apart : options.split = true → ∀ path, options.path = some path →
    Path.same path (Path.join (FileTree.spell start.home) (fileName options detected)) = false

/-- A type's file is not at the output's own path, if it is not at the path that was given. -/
theorem Admits.of_path {options : OutputOptions} {start : FileTree} {detected : DetectedType}
    {own : Text} (proper : IsScopedName detected.fullName) (given : options.path = some own)
    (other : Path.same own (Path.join (FileTree.spell start.home) (fileName options detected)) =
      false) : Admits options start detected := by
  refine ⟨proper, fun _ path same => ?_⟩
  obtain rfl := Option.some.inj (given.symm.trans same)
  exact other

section

variable {options : OutputOptions} {detected : DetectedType}
  (proper : IsScopedName detected.fullName)

include proper

/-- The way of a type's file is that of all pieces of its path. -/
theorem way_fileName :
    Path.way (fileName options detected) = Text.cut '/' (fileName options detected) := by
  obtain ⟨steps, names⟩ := steps_fileName options proper
  rw [← FileTree.filter_steps, steps]
  exact List.filter_eq_self.mpr fun step member => by simpa using (names step member).1.notHere

/-- Below the current folder the place of a type's file can be spelled. -/
theorem isSpelled_file {home : Location} (spelled : FileTree.IsSpelled home) :
    FileTree.IsSpelled (home ++ Text.cut '/' (fileName options detected)) := by
  refine ⟨fun name member => ?_⟩
  -- The names of the folder are proper, and those of the file are too.
  rcases List.mem_append.mp member with above | below
  · exact spelled.names name above
  · obtain ⟨named, nonempty⟩ := (steps_fileName options proper).2 name below
    exact ⟨named, nonempty, (Text.of_mem_cut below).1⟩

/-- The steps to a type's file do not climb if those to its folder do not. -/
theorem noClimb_join {base : Text} (noClimb : "..".toList ∉ Path.names base) :
    "..".toList ∉ FileTree.steps (Path.join base (fileName options detected)) := by
  have inside := isInside_fileName options proper
  obtain ⟨steps, names⟩ := steps_fileName options proper
  -- The steps are those of the folder and behind them those of the file.
  rw [FileTree.steps_join inside.relative inside.nonempty, steps]
  intro member
  rcases List.mem_append.mp member with above | below
  · exact noClimb above
  · exact (names _ below).1.notUp rfl

/-- The way of a type's file goes on from its folder. -/
theorem way_join_fileName (base : Text) :
    Path.way (Path.join base (fileName options detected)) =
      Path.way base ++ Text.cut '/' (fileName options detected) := by
  rw [Path.way_join (isInside_fileName options proper).relative, way_fileName proper]

end

/-- Types whose files are at the end of the same way have one file. -/
theorem fileName_of_cut {options : OutputOptions} {a b : DetectedType}
    (properA : IsScopedName a.fullName) (properB : IsScopedName b.fullName)
    (same : Text.cut '/' (fileName options a) = Text.cut '/' (fileName options b)) :
    fileName options a = fileName options b := by
  rw [← (steps_fileName options properA).1, ← (steps_fileName options properB).1] at same
  rw [fileName, fileName, path_of_steps properA properB same]

end Emitter

namespace Target

open Emitter (Admits fileName)

/-- What a sparing output can have claimed: its own path, or the file of a type in the current
folder or, once that was opened, in the folder of the output. Nothing was at the path of a file. -/
inductive Claimable (options : OutputOptions) (start : FileTree) (folder : Option Text) :
    Text → Prop where
  | own (free : options.split = false → start.has (splitFolder options start) = false) :
    Claimable options start folder (splitFolder options start)
  | early {detected : DetectedType} (split : options.split = true)
      (proper : IsScopedName detected.fullName)
      (free : start.has
        (Path.join (FileTree.spell start.home) (fileName options detected)) = false) :
    Claimable options start folder
      (Path.join (FileTree.spell start.home) (fileName options detected))
  | late {detected : DetectedType} (split : options.split = true) (opened : folder.isSome = true)
      (proper : IsScopedName detected.fullName)
      (free : start.has
        (Path.join (splitFolder options start) (fileName options detected)) = false) :
    Claimable options start folder
      (Path.join (splitFolder options start) (fileName options detected))

/-- What could be claimed can be claimed when the folder is open. -/
theorem Claimable.opened {options : OutputOptions} {start : FileTree} {folder : Option Text}
    {own path : Text} (claimable : Claimable options start folder path) :
    Claimable options start (some own) path := by
  cases claimable with
  | own free => exact .own free
  | early split proper free => exact .early split proper free
  | late split _ proper free => exact .late split rfl proper free

/-- An output that has left alone what was there before it. -/
structure Spares (options : OutputOptions) (start : FileTree) (target : Target) (tree : FileTree) :
    Prop where
  chosen : target.options = options
  grown : start.Extends tree
  handle : ∀ handle, target.handle = some handle → start.entry? handle.location = none
  folder : target.folder = none ∨ target.folder = some (splitFolder options start)
  claimed : ∀ path ∈ target.claimed, Claimable options start target.folder path

variable {options : OutputOptions} {start : FileTree} {target : Target} {tree : FileTree}
  {world : World}

/-- The path of a type's file: in the folder that was opened, or in the current one. -/
def filePath (target : Target) (tree : FileTree) (detected : DetectedType) : Text :=
  Path.join (target.folder.getD (FileTree.spell tree.home)) (fileName target.options detected)

/-- A path that was claimed is the same as one of the claims. -/
theorem hasClaimed_iff {path : Text} :
    target.hasClaimed path = true ↔ ∃ claim ∈ target.claimed, Path.same path claim = true :=
  List.any_eq_true

/-- An output that is not used yet has left everything alone. -/
theorem Spares.initial (options : OutputOptions) (start : FileTree) :
    Spares options start { options } start where
  chosen := rfl
  grown := .refl start
  handle := by simp
  folder := .inl rfl
  claimed := by simp

namespace Spares

/-- Where a sparing output may open a file though something was there, it has claimed the path. -/
theorem claim_of_allowed (spares : Spares options start target tree) (sparing : options.IsSparing)
    {path : Text} (allowed : target.refuses tree path false = false)
    (there : start.has path = true) :
    ∃ claim ∈ target.claimed, Path.same path claim = true := by
  have now := spares.grown.has there
  unfold refuses at allowed
  rw [spares.chosen, sparing.overwrite, now] at allowed
  exact hasClaimed_iff.mp (by simpa using allowed)

/-- The file of a type is not at the output's own path. -/
theorem file_ne_own (spares : Spares options start target tree) (split : options.split = true)
    {detected : DetectedType} (admits : Admits options start detected) :
    Path.same (target.filePath tree detected) (splitFolder options start) = false := by
  -- If both paths were alike, their ways would be equal.
  cases alike : Path.same (target.filePath tree detected) (splitFolder options start) with
  | false => rfl
  | true =>
    -- In that folder the way to the file would be longer.
    have below {base : Text} (same : target.filePath tree detected =
        Path.join base (fileName options detected)) (own : splitFolder options start = base) :
        False := by
      obtain ⟨-, ways⟩ := Path.of_same alike
      rw [same, own, Emitter.way_join_fileName admits.proper] at ways
      exact Text.cut_ne_nil _ _ (List.append_right_eq_self.mp ways)
    have path : target.filePath tree detected =
        Path.join (target.folder.getD (FileTree.spell start.home)) (fileName options detected) := by
      rw [filePath, spares.chosen, spares.grown.home]
    rcases spares.folder with none | opened
    · -- In the current folder only a path that was given can be that of the file.
      rw [none, Option.getD_none] at path
      cases given : options.path with
      | none =>
        refine (below path ?_).elim
        rw [splitFolder, given, Option.getD_none]
      | some own =>
        rw [path, splitFolder, given, Option.getD_some, Path.same_comm,
          admits.apart split own given] at alike
        cases alike
    · rw [opened, Option.getD_some] at path
      exact (below path rfl).elim

/-- Where the file of a type may be opened nothing was. -/
theorem file_free (spares : Spares options start target tree) (sparing : options.IsSparing)
    (spelled : FileTree.IsSpelled start.home) (split : options.split = true)
    {detected : DetectedType} (admits : Admits options start detected)
    (allowed : target.refuses tree (target.filePath tree detected) false = false) :
    start.has (target.filePath tree detected) = false := by
  cases there : start.has (target.filePath tree detected) with
  | false => rfl
  | true =>
    -- The path is the same as one that was claimed, and nothing was at that.
    obtain ⟨claim, member, alike⟩ := spares.claim_of_allowed sparing allowed there
    cases spares.claimed claim member with
    | own =>
      -- The output's own path may have been taken, but no file of a type is at it.
      rw [spares.file_ne_own split admits] at alike
      cases alike
    | @early other _ proper free =>
      -- The claim is the plain spelling of its place, which finds what any other spelling finds.
      have relative := (Emitter.isInside_fileName options proper).relative
      rw [Path.same_comm, spelled.join_spell relative] at alike
      rw [spelled.join_spell relative] at free
      have inner : start.home ++ Text.cut '/' (fileName options other) ≠ [] := by
        simp [Text.cut_ne_nil]
      rw [(Emitter.isSpelled_file proper spelled).has_of_same inner alike there] at free
      cases free
    | late _ opened proper free =>
      -- In one folder the files of two types are spelled alike if they are the same.
      have folder := spares.folder.resolve_left fun none => by simp [none] at opened
      obtain ⟨-, ways⟩ := Path.of_same alike
      rw [filePath, folder, Option.getD_some, spares.chosen] at ways there
      rw [Emitter.way_join_fileName admits.proper, Emitter.way_join_fileName proper,
        List.append_cancel_left_eq] at ways
      rw [Emitter.fileName_of_cut admits.proper proper ways, free] at there
      cases there

/-- A claim of a path where nothing was leaves everything alone, and so do folders that are made. -/
theorem claiming (spares : Spares options start target tree) {path : Text}
    (claimable : Claimable options start target.folder path) {after : FileTree}
    (grown : start.Extends after) : Spares options start (target.claiming path) after :=
  { spares with
    grown
    claimed := List.forall_mem_cons.mpr ⟨claimable, spares.claimed⟩ }

end Spares
end Target
end IdlScout
