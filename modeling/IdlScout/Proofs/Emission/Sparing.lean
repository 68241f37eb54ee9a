import IdlScout.Proofs.Emission.Claims

/-! What an output does that may not touch what was there: it makes folders, and the files that it
opens and writes are new. -/

namespace IdlScout
namespace Target

open Emitter (Admits fileName)

variable {options : OutputOptions} {start : FileTree} {target : Target} {tree : FileTree}
  {world : World}

/-- What an output does leaves alone what was there, and keeps all claims. -/
structure Advances (options : OutputOptions) (start : FileTree) (target : Target) {α : Type}
    (result : Except OutputFault α × Target × World) : Prop where
  spares : Spares options start result.2.1 result.2.2.tree
  claims : target.claimed ⊆ result.2.1.claimed

namespace Advances

variable {α : Type} {answer : Except OutputFault α} {after : World}

/-- Nothing was done. -/
theorem unchanged (spares : Spares options start target tree) (same : after.tree = tree) :
    Advances options start target (answer, target, after) := by
  refine ⟨?_, List.Subset.refl _⟩
  rw [same]
  exact spares

/-- A path was claimed. -/
theorem claimed {path : Text} (spares : Spares options start (target.claiming path) after.tree) :
    Advances options start target (answer, target.claiming path, after) :=
  ⟨spares, List.subset_cons_self _ _⟩

end Advances

/-- What comes of writing the file of a type where nothing was. -/
inductive WritesFresh (options : OutputOptions) (start : FileTree) (path content : Text)
    (target : Target) (before : FileTree) : Except OutputFault Text × Target × World → Prop where
  /-- Something is there, and nothing is changed. -/
  | refused {after : World} (there : target.refuses before path false = true)
      (same : after.tree = before) :
    WritesFresh options start path content target before
      (.error (.taken false path), target, after)
  /-- The path is claimed, but no file is made. -/
  | failed {fault : PathFault} {after : World}
      (spares : Spares options start (target.claiming path) after.tree) :
    WritesFresh options start path content target before
      (.error (.unusable fault), target.claiming path, after)
  /-- The file has the content. -/
  | wrote {after : World} (spares : Spares options start (target.claiming path) after.tree)
      (reads : after.tree.read path = .ok (Utf8.encode content)) :
    WritesFresh options start path content target before (.ok path, target.claiming path, after)

/-- The names of the folder of a sparing output do not climb. -/
theorem noClimb_splitFolder (sparing : options.IsSparing)
    (spelled : FileTree.IsSpelled start.home) :
    "..".toList ∉ Path.names (splitFolder options start) := by
  unfold splitFolder
  cases given : options.path with
  | none => exact spelled.noClimb
  | some path => exact sparing.noClimb path given

namespace Spares

/-- The folder that files are written to is the output's own, or else the current one. -/
theorem folder_cases (spares : Spares options start target tree) :
    target.folder.isSome = true ∧
        target.folder.getD (FileTree.spell tree.home) = splitFolder options start ∨
      target.folder.getD (FileTree.spell tree.home) = FileTree.spell start.home := by
  -- Before it is opened a split output writes below the current folder.
  rcases spares.folder with none | opened
  · rw [none, Option.getD_none, spares.grown.home]
    exact .inr rfl
  · rw [opened]
    exact .inl ⟨rfl, rfl⟩

/-- The path of a type's file does not climb, and can be claimed if nothing was there. -/
theorem claimable_file (spares : Spares options start target tree) (sparing : options.IsSparing)
    (spelled : FileTree.IsSpelled start.home) (split : options.split = true)
    {detected : DetectedType} (proper : IsScopedName detected.fullName) :
    "..".toList ∉ FileTree.steps (target.filePath tree detected) ∧
      (start.has (target.filePath tree detected) = false →
        Claimable options start target.folder (target.filePath tree detected)) := by
  unfold filePath
  rw [spares.chosen]
  -- A claim is late in the folder of the output, and early in the current one.
  rcases spares.folder_cases with ⟨opened, own⟩ | home
  · rw [own]
    refine ⟨Emitter.noClimb_join proper (noClimb_splitFolder sparing spelled), ?_⟩
    exact .late split opened proper
  · rw [home]
    refine ⟨Emitter.noClimb_join proper spelled.noClimb, ?_⟩
    exact .early split proper

/-- Files of types are written where nothing was, or not at all. -/
theorem writeFile (sparing : options.IsSparing) (level : start.IsLevel)
    (spelled : FileTree.IsSpelled start.home) (split : options.split = true)
    (spares : Spares options start target world.tree) {detected : DetectedType}
    (admits : Admits options start detected) (content : Text) :
    WritesFresh options start (target.filePath world.tree detected) content target world.tree
      (Target.writeFile (fileName options detected) content (target, world)) := by
  obtain ⟨note, wrote⟩ := writeFile_apply (fileName options detected) content target world
  have path : Path.join (target.folder.getD (FileTree.spell world.tree.home))
      (fileName options detected) = target.filePath world.tree detected := by
    rw [filePath, spares.chosen]
  obtain ⟨noClimb, claimable⟩ := spares.claimable_file sparing spelled split admits.proper
  have free := spares.file_free sparing spelled split admits
  -- The file is at the path of the type, whichever of the two folders it is in.
  rw [path] at wrote
  rw [wrote]
  have opens := openFile_opens_anywhere (target.filePath world.tree detected) false target world
  generalize Target.openFile (target.filePath world.tree detected) false (target, world) = result
    at opens
  -- The file can only be opened where nothing was, and what is written then is its whole content.
  cases opens with
  | refused there same => exact .refused there same
  | failed allowed grows =>
    exact .failed (spares.claiming (claimable (free allowed)) (spares.grown.trans (by simp) grows))
  | opened allowed grows opens =>
    have nothing := free allowed
    have made := spares.grown.trans (by simp) grows
    obtain ⟨fresh, anew, writes, -⟩ := made.openFile level noClimb nothing opens
    have written := writes.write (Utf8.encode content)
    rw [← anew] at written
    have grown := made.trans (by simpa using fresh) written.grows
    exact .wrote (spares.claiming (claimable nothing) grown) (written.read grown fresh)

/-- The folder of a split output is opened without touching what is there. -/
theorem openFolder (spares : Spares options start target tree) (split : options.split = true)
    {append : Bool} {result : Except OutputFault Unit × Target × World}
    (opens : OpensFolder (splitFolder options start) append target tree result) :
    Advances options start target result := by
  have own : Claimable options start target.folder (splitFolder options start) :=
    .own fun whole => by simp [split] at whole
  have claiming : Spares options start (target.claiming (splitFolder options start))
      (tree.makeFolders (splitFolder options start)).2 :=
    -- Making the folder adds entries only.
    spares.claiming own (spares.grown.trans (by simp) (tree.makeFolders_grows _))
  cases opens with
  | refused there same => exact .unchanged spares same
  | failed makes =>
    rw [← makes] at claiming
    exact .claimed claiming
  | opened whole makes =>
    rw [← makes] at claiming
    -- From now on the files of types are claimed in this folder.
    refine ⟨?_, List.subset_cons_self _ _⟩
    exact { claiming with
      folder := .inr rfl
      claimed := fun path member => (claiming.claimed path member).opened }

/-- Where an output that is not split may open its single file nothing was. -/
theorem single_free (spares : Spares options start target tree) (sparing : options.IsSparing)
    (whole : options.split = false)
    (allowed : target.refuses tree (splitFolder options start) false = false) :
    start.has (splitFolder options start) = false := by
  cases there : start.has (splitFolder options start) with
  | false => rfl
  | true =>
    obtain ⟨claim, member, alike⟩ := spares.claim_of_allowed sparing allowed there
    -- Such an output claims nothing but its own path.
    cases spares.claimed claim member with
    | own free =>
      rw [free whole] at there
      cases there
    | early split | late split =>
      rw [whole] at split
      cases split

/-- The single file of an output is opened where nothing was, or not at all. -/
theorem openSingle (spares : Spares options start target tree) (sparing : options.IsSparing)
    (level : start.IsLevel) (spelled : FileTree.IsSpelled start.home)
    (whole : options.split = false) {result : Except OutputFault Handle × Target × World}
    (opens : OpensFile [] (splitFolder options start) false target tree result) :
    Advances options start target result ∧
      ∀ handle, result.1 = .ok handle → start.entry? handle.location = none := by
  have free := spares.single_free sparing whole
  have claiming (allowed : target.refuses tree (splitFolder options start) false = false)
      {after : FileTree} (grown : start.Extends after) :
      Spares options start (target.claiming (splitFolder options start)) after :=
    spares.claiming (.own fun _ => free allowed) grown
  -- The opening may be refused, fail after folders were made, or make the file.
  cases opens with
  | refused there same => exact ⟨.unchanged spares same, nofun⟩
  | failed allowed grows =>
    exact ⟨.claimed (claiming allowed (spares.grown.trans (by simp) grows)), nofun⟩
  | opened allowed grows opens =>
    have noClimb := FileTree.noClimb_steps (noClimb_splitFolder sparing spelled)
    have made := spares.grown.trans (by simp) grows
    obtain ⟨fresh, -, -, grown⟩ := made.openFile level noClimb (free allowed) opens
    refine ⟨.claimed (claiming allowed grown), fun handle same => ?_⟩
    rw [← Except.ok.inj same]
    exact fresh

/-- An output is opened without touching what is there. -/
theorem opening (spares : Spares options start target world.tree) (sparing : options.IsSparing)
    (level : start.IsLevel) (spelled : FileTree.IsSpelled start.home) :
    Advances options start target (Target.start (target, world)) := by
  obtain rfl := spares.chosen
  -- A split output opens its folder, any other its file, if a path was given.
  cases split : target.options.split with
  | true =>
    have opens := start_of_split world split
    have folder : splitFolder target.options world.tree = splitFolder target.options start := by
      rw [splitFolder, splitFolder, spares.grown.home]
    rw [folder] at opens
    exact spares.openFolder split opens
  | false =>
    cases given : target.options.path with
    | none =>
      rw [start_of_standard world split given]
      exact .unchanged spares rfl
    | some path =>
      -- An output that is not split may append only if it is not sparing.
      have append := sparing.append.resolve_right (by simp [split])
      have own : splitFolder target.options start = path := by
        rw [splitFolder, given, Option.getD_some]
      rw [start_of_single world split given, append, ← own]
      have opens := openFile_opens_anywhere (splitFolder target.options start) false target world
      -- The handle that is kept is that of the new file.
      obtain ⟨⟨later, claims⟩, fresh⟩ := spares.openSingle sparing level spelled split opens
      generalize Target.openFile _ false (target, world) = result at later claims fresh
      rcases result with ⟨fault | handle, opened, after⟩
      · exact ⟨later, claims⟩
      · refine ⟨{ later with handle := ?_ }, claims⟩
        intro kept same
        rw [← Option.some.inj same]
        exact fresh handle rfl

/-- Lines are written to the open file, which is new, or to no file. -/
theorem write (spares : Spares options start target world.tree) (text : Text) :
    Advances options start target (Target.write text (target, world)) := by
  rcases write_apply text target world with ⟨-, printed, same, wrote⟩ | ⟨handle, kept, wrote⟩
  · rw [wrote]
    exact .unchanged spares same
  · have fresh := spares.handle handle kept
    obtain ⟨grows, place⟩ := world.tree.write_grows handle (Utf8.encode (ended text))
    rw [wrote]
    refine ⟨{ spares with grown := ?_, handle := ?_ }, List.Subset.refl _⟩
    · exact spares.grown.trans (by simpa using fresh) grows
    · -- The handle moves on in the same file.
      intro later same
      rw [← Option.some.inj same, place]
      exact fresh

/-- Releasing the open file changes no file. -/
theorem finish (spares : Spares options start target world.tree) :
    Advances options start target (Target.finish (target, world)) :=
  ⟨{ spares with handle := nofun }, List.Subset.refl _⟩

end Spares
end Target
end IdlScout
