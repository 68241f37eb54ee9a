import IdlScout.Proofs.Emission.Preservation
import IdlScout.Proofs.Files.SetAside

/-! The paths that interface text is written to: whatever its receivers are told, only files that
one of these paths leads to are written. -/

namespace IdlScout

/-- The paths that interface text is written to when some notices are told: the files of the types
in a split output, and else the single file. -/
def OutputOptions.textPaths (options : OutputOptions) (home : Location) (notices : List Notice) :
    List Text :=
  if options.split then
    (notices.filterMap Notice.type?).map fun detected =>
      Path.join (options.path.getD (FileTree.spell home)) (Emitter.fileName options detected)
  else options.path.toList

namespace Target

open FileTree (GrowsAt)

/-- The open file of an output, if it has one, is where one of some paths leads. -/
def IsOpenAt (paths : List Text) (tree : FileTree) (target : Target) : Prop :=
  ∀ handle, target.handle = some handle →
    ∃ path ∈ paths, tree.locate true path = .ok (.present handle.location)

/-- It is there still when the tree grows. -/
theorem IsOpenAt.grows {paths others : List Text} {before after : FileTree} {target : Target}
    (isOpen : target.IsOpenAt paths before) (grows : GrowsAt others before after) :
    target.IsOpenAt paths after := by
  intro handle found
  obtain ⟨path, listed, leads⟩ := isOpen handle found
  exact ⟨path, listed, grows.locate leads⟩

/-- A step of an output writes only where some paths lead, and its open file is still there. -/
structure WritesAt (paths : List Text) (target : Target) (world : World) (later : Target)
    (after : World) : Prop where
  grows : GrowsAt paths world.tree after.tree
  isOpen : later.IsOpenAt paths after.tree
  options : later.options = target.options
  folder : later.folder = target.folder

variable {paths : List Text} {target later : Target} {world after : World}

/-- Lines go to the open file, or to no file. -/
theorem writesAt_of_write {text : Text} (isOpen : target.IsOpenAt paths world.tree)
    (ran : write text (target, world) = (.ok (), later, after)) :
    WritesAt paths target world later after := by
  rcases write_apply text target world with
    ⟨standard, printed, same, wrote⟩ | ⟨handle, found, wrote⟩
  · rw [wrote] at ran
    cases ran
    refine ⟨same ▸ .refl _ _, fun handle found => ?_, rfl, rfl⟩
    rw [standard] at found
    cases found
  · rw [wrote] at ran
    cases ran
    -- The open file is one of the paths', and writing to it leaves it where it is.
    obtain ⟨path, listed, leads⟩ := isOpen handle found
    obtain ⟨grows, place⟩ := world.tree.write_grows handle (Utf8.encode (ended text))
    refine ⟨.of_written grows listed (grows.locate leads), fun handle found => ?_, rfl, rfl⟩
    obtain rfl := Option.some.inj found
    exact ⟨path, listed, place ▸ grows.locate leads⟩

/-- A file that is opened is where its path leads, and nothing else is written. -/
theorem growsAt_of_openFile {path : Text} {append : Bool} {handle : Handle} (listed : path ∈ paths)
    (ran : openFile path append (target, world) = (.ok handle, later, after)) :
    GrowsAt paths world.tree after.tree ∧ later = target.claiming path ∧
      after.tree.locate true path = .ok (.present handle.location) := by
  have opens := openFile_opens_anywhere path append target world
  rw [ran] at opens
  cases opens with
  | opened allowed grows opens =>
    -- First folders are made, then the file itself is made or emptied.
    obtain ⟨-, kept, writes, -⟩ :=
      FileTree.keepsFile_of_openFile opens rfl fun _ => FileTree.isInside_root
    exact ⟨(GrowsAt.of_grows grows).trans (.of_written writes.grows listed writes.leads), rfl,
      writes.leads⟩

/-- The file of a type is where its path leads. -/
theorem writesAt_of_writeFile {relative content folder path : Text}
    (isOpen : target.IsOpenAt paths world.tree) (found : target.folder = some folder)
    (listed : Path.join folder relative ∈ paths)
    (ran : writeFile relative content (target, world) = (.ok path, later, after)) :
    WritesAt paths target world later after := by
  obtain ⟨note, wrote⟩ := writeFile_apply relative content target world
  rw [wrote, found, Option.getD_some] at ran
  rcases opened : openFile (Path.join folder relative) false (target, world) with
    ⟨fault | handle, claimed, made⟩
  · -- A run that ended well has opened the file.
    simp only [opened] at ran
    cases ran
  · simp only [opened] at ran
    cases ran
    -- The file is opened at its path first and written to then.
    obtain ⟨grows, rfl, leads⟩ := growsAt_of_openFile listed opened
    obtain ⟨written, -⟩ := made.tree.write_grows handle (Utf8.encode content)
    have whole := grows.trans (.of_written written listed (written.locate leads))
    exact ⟨whole, isOpen.grows whole, rfl, rfl⟩

/-- A fresh output of interface text that is opened has its folder, or its file. -/
theorem opened_of_start {options : OutputOptions} {home : Location} {notices : List Notice}
    (covers : options.textPaths home notices ⊆ paths) (same : world.tree.home = home)
    (ran : start ({ options }, world) = (.ok (), later, after)) :
    GrowsAt paths world.tree after.tree ∧ later.IsOpenAt paths after.tree ∧
      later.options = options ∧
      (options.split = true →
        later.folder = some (options.path.getD (FileTree.spell home))) := by
  subst same
  cases split : options.split with
  | true =>
    -- A split output has no file of its own yet, only its folder.
    have opens := @start_of_split { options } world split
    rw [ran] at opens
    cases opens with
    | opened whole makes =>
      refine ⟨?_, nofun, rfl, fun _ => rfl⟩
      rw [makes]
      exact .of_grows (world.tree.makeFolders_grows _)
  | false =>
    -- Without a path the output prints; with one its file is opened.
    cases given : options.path with
    | none =>
      rw [start_of_standard world split given] at ran
      cases ran
      exact ⟨.refl _ _, nofun, rfl, nofun⟩
    | some path =>
      have listed : path ∈ paths := covers (by simp [OutputOptions.textPaths, split, given])
      rw [start_of_single world split given] at ran
      rcases opened : openFile path options.append ({ options }, world) with
        ⟨fault | handle, claimed, made⟩
      · simp only [opened] at ran
        cases ran
      · simp only [opened] at ran
        cases ran
        obtain ⟨grows, rfl, leads⟩ := growsAt_of_openFile listed opened
        refine ⟨grows, fun other found => ?_, rfl, nofun⟩
        obtain rfl := Option.some.inj found
        exact ⟨path, listed, leads⟩

end Target

namespace Emitter

open FileTree (GrowsAt SetsAside Avoids)

variable {home : Location} {notices : List Notice} {paths : List Text}

/-- A receiver of interface text that was opened, and whose paths are among some. -/
structure IsText (home : Location) (notices : List Notice) (paths : List Text) (tree : FileTree)
    (emitter : Emitter) : Prop where
  kind : ∃ layout clean, emitter.kind = .idl layout clean
  covers : emitter.target.options.textPaths home notices ⊆ paths
  folder : emitter.target.options.split = true →
    emitter.target.folder = some (emitter.target.options.path.getD (FileTree.spell home))
  isOpen : emitter.target.IsOpenAt paths tree

/-- A receiver of interface text that is fresh, and whose paths are among some. -/
def IsFreshText (home : Location) (notices : List Notice) (paths : List Text) (emitter : Emitter) :
    Prop :=
  ∃ layout clean options, emitter = ⟨.idl layout clean, { options }⟩ ∧
    options.textPaths home notices ⊆ paths

section Text

variable {emitter later : Emitter} {world after : World}

/-- What the tree grows elsewhere does not concern a receiver. -/
theorem IsText.grows {before after : FileTree} {others : List Text}
    (isText : emitter.IsText home notices paths before) (grows : GrowsAt others before after) :
    emitter.IsText home notices paths after :=
  ⟨isText.kind, isText.covers, isText.folder, isText.isOpen.grows grows⟩

/-- Others may change files, if what the paths lead to they lead to still. -/
theorem IsText.avoids {before after : FileTree} {path : Text}
    (isText : emitter.IsText home notices paths before)
    (avoids : Avoids path paths before after) : emitter.IsText home notices paths after := by
  refine ⟨isText.kind, isText.covers, isText.folder, fun handle found => ?_⟩
  obtain ⟨other, listed, leads⟩ := isText.isOpen handle found
  exact ⟨other, listed, avoids.leads other (.tail _ listed) _ leads⟩

/-- A step of the output keeps the receiver what it is. -/
theorem IsText.step {target : Target} (isText : emitter.IsText home notices paths world.tree)
    (writes : Target.WritesAt paths emitter.target world target after) :
    GrowsAt paths world.tree after.tree ∧
      IsText home notices paths after.tree { emitter with target } := by
  refine ⟨writes.grows, isText.kind, ?_, ?_, writes.isOpen⟩
  · -- Neither the options nor the folder changes after the opening.
    rw [writes.options]
    exact isText.covers
  · rw [writes.options, writes.folder]
    exact isText.folder

/-- A receiver of interface text that is opened writes only where its paths lead. -/
theorem IsFreshText.opened (fresh : emitter.IsFreshText home notices paths)
    (same : world.tree.home = home)
    (ran : react .opened (emitter, world) = (.ok (), later, after)) :
    GrowsAt paths world.tree after.tree ∧ later.IsText home notices paths after.tree := by
  obtain ⟨layout, clean, options, rfl, covers⟩ := fresh
  rcases started : Target.start ({ options }, world) with ⟨result, target, begun⟩
  -- The receiver does nothing else when it is opened.
  have reacts : react .opened (⟨.idl layout clean, { options }⟩, world) =
      (result, ⟨.idl layout clean, target⟩, begun) := by
    rw [react, Act.bind_of_ok (Act.own_apply _)]
    simp only [onTarget, started]
  rw [reacts] at ran
  cases ran
  obtain ⟨grows, isOpen, rfl, folder⟩ := Target.opened_of_start covers same started
  exact ⟨grows, ⟨layout, clean, rfl⟩, covers, folder, isOpen⟩

/-- Whatever a receiver of interface text is told then, it writes only where its paths lead. -/
theorem IsText.react (isText : emitter.IsText home notices paths world.tree) {notice : Notice}
    (told : notice ∈ notices) (opened : notice ≠ .opened)
    (ran : react notice (emitter, world) = (.ok (), later, after)) :
    GrowsAt paths world.tree after.tree ∧ later.IsText home notices paths after.tree := by
  obtain ⟨kind, target⟩ := emitter
  obtain ⟨layout, clean, rfl⟩ := isText.kind
  -- The step that is taken depends on the notice alone.
  have step (act : Act Target OutputFault Unit)
      (writes : ∀ later after, act (target, world) = (.ok (), later, after) →
        Target.WritesAt paths target world later after)
      (reacts : Emitter.react notice (⟨.idl layout clean, target⟩, world) =
        onTarget act (⟨.idl layout clean, target⟩, world)) :
      GrowsAt paths world.tree after.tree ∧ later.IsText home notices paths after.tree := by
    rcases acted : act (target, world) with ⟨result, next, done⟩
    rw [ran] at reacts
    simp only [onTarget, acted] at reacts
    cases reacts
    exact isText.step (writes next after acted)
  have writes (text : Text) (later : Target) (after : World)
      (ran : Target.write text (target, world) = (.ok (), later, after)) :
      Target.WritesAt paths target world later after :=
    Target.writesAt_of_write isText.isOpen ran
  cases notice with
  | opened => exact absurd rfl opened
  | type detected =>
    refine step (writeType layout clean detected) (fun later after ran => ?_) rfl
    rw [writeType_apply] at ran
    -- A whole output writes all types to one file, a split one each to its own.
    cases split : target.options.split with
    | false =>
      rw [if_neg (by simp [split])] at ran
      exact writes _ _ _ ran
    | true =>
      rw [if_pos split] at ran
      -- The file of the type is one of those that were counted in.
      have listed : Path.join (target.options.path.getD (FileTree.spell home))
          (fileName target.options detected) ∈ paths := by
        refine isText.covers ?_
        rw [OutputOptions.textPaths, if_pos split]
        exact List.mem_map_of_mem (List.mem_filterMap.mpr ⟨_, told, rfl⟩)
      rcases wrote : Target.writeFile (fileName target.options detected)
        (typeText layout clean target.options detected) (target, world) with ⟨fault | path, done⟩
      · rw [wrote] at ran
        cases ran
      · rw [wrote] at ran
        cases ran
        exact Target.writesAt_of_writeFile isText.isOpen (isText.folder split) listed wrote
  | topic detected => exact step (Target.write (topicComment detected)) (writes _) rfl
  | closed types topics =>
    refine step Target.finish (fun later after ran => ?_) rfl
    cases ran
    refine ⟨.refl _ _, fun handle found => ?_, rfl, rfl⟩
    cases found

end Text

/-- Of several receivers the first accepts a notice, and then the others. -/
theorem of_reactEach_cons {notice : Notice} {emitter : Emitter} {rest last : List Emitter}
    {world after : World} (ran : reactEach notice (emitter :: rest) world = (.ok (), last, after)) :
    ∃ first others middle, last = first :: others ∧
      react notice (emitter, world) = (.ok (), first, middle) ∧
      reactEach notice rest middle = (.ok (), others, after) := by
  rw [reactEach] at ran
  rcases reacts : react notice (emitter, world) with ⟨fault | _, first, middle⟩
  · rw [reacts] at ran
    cases ran
  · rw [reacts] at ran
    rcases later : reactEach notice rest middle with ⟨result, others, done⟩
    simp only [later] at ran
    cases ran
    exact ⟨first, others, middle, rfl, rfl, later⟩

/-- Receivers that each write only where some paths lead do so together. -/
theorem reactEach_growsAt {notice : Notice} (before after : FileTree → Emitter → Prop)
    (stays : ∀ emitter {tree grown}, GrowsAt paths tree grown → before tree emitter →
      before grown emitter)
    (staysAfter : ∀ emitter {tree grown}, GrowsAt paths tree grown → after tree emitter →
      after grown emitter)
    (step : ∀ emitter world later done, before world.tree emitter →
      react notice (emitter, world) = (.ok (), later, done) →
      GrowsAt paths world.tree done.tree ∧ after done.tree later)
    {emitters last : List Emitter} {world done : World}
    (each : ∀ emitter ∈ emitters, before world.tree emitter)
    (ran : reactEach notice emitters world = (.ok (), last, done)) :
    GrowsAt paths world.tree done.tree ∧ ∀ emitter ∈ last, after done.tree emitter := by
  induction emitters generalizing last world with
  | nil =>
    cases ran
    exact ⟨.refl _ _, by simp⟩
  | cons emitter rest ih =>
    obtain ⟨first, others, middle, rfl, reacts, later⟩ := of_reactEach_cons ran
    obtain ⟨grows, holds⟩ := step emitter world first middle (each emitter (by simp)) reacts
    -- What one receiver writes leaves the others ready for theirs.
    obtain ⟨growsOn, holdsOn⟩ := ih
      (fun other member => stays other grows (each other (.tail _ member))) later
    refine ⟨grows.trans growsOn, fun other member => ?_⟩
    rcases List.mem_cons.mp member with rfl | listed
    · exact staysAfter _ growsOn holds
    · exact holdsOn other listed

section Together

variable {emitters last : List Emitter} {world done : World}

/-- Fresh receivers of interface text that are opened together write only where their paths lead. -/
theorem texts_of_opening
    (fresh : ∀ emitter ∈ emitters, emitter.IsFreshText home notices paths)
    (same : world.tree.home = home)
    (ran : reactEach .opened emitters world = (.ok (), last, done)) :
    GrowsAt paths world.tree done.tree ∧
      ∀ emitter ∈ last, emitter.IsText home notices paths done.tree :=
  -- While the others are opened the folder that paths start from stays the same.
  reactEach_growsAt
    (fun tree emitter => emitter.IsFreshText home notices paths ∧ tree.home = home)
    (fun tree emitter => emitter.IsText home notices paths tree)
    (fun _ _ _ grows opening => ⟨opening.1, grows.home.trans opening.2⟩)
    (fun _ _ _ grows text => text.grows grows)
    (fun _ _ _ _ opening reacts => opening.1.opened opening.2 reacts)
    (fun emitter member => ⟨fresh emitter member, same⟩) ran

/-- So do receivers of interface text that are told of anything else. -/
theorem texts_of_reactEach {notice : Notice} (told : notice ∈ notices) (opened : notice ≠ .opened)
    (texts : ∀ emitter ∈ emitters, emitter.IsText home notices paths world.tree)
    (ran : reactEach notice emitters world = (.ok (), last, done)) :
    GrowsAt paths world.tree done.tree ∧
      ∀ emitter ∈ last, emitter.IsText home notices paths done.tree :=
  reactEach_growsAt (fun tree emitter => emitter.IsText home notices paths tree)
    (fun tree emitter => emitter.IsText home notices paths tree)
    (fun _ _ _ grows text => text.grows grows) (fun _ _ _ grows text => text.grows grows)
    (fun _ _ _ _ text reacts => text.react told opened reacts) texts ran

end Together

end Emitter
end IdlScout
