import IdlScout.Emission.Target
import IdlScout.Proofs.Act
import IdlScout.Proofs.Files.Growth
import IdlScout.Proofs.Text.Utf8

/-! How an output claims its paths, and how its folder and its files are opened: all that can come
of it, faults included. A refusal changes nothing. -/

namespace IdlScout
namespace Target

/-- Something is at a path that may not be touched. -/
def refuses (target : Target) (tree : FileTree) (path : Text) (append : Bool) : Bool :=
  tree.has path && !target.options.overwrite && !append && !target.hasClaimed path

/-- The target with one path more that was claimed. -/
def claiming (target : Target) (path : Text) : Target :=
  { target with claimed := path :: target.claimed }

/-- A claim that is refused changes nothing but the log; any other is kept. -/
theorem claim_apply (path : Text) (isFolder append : Bool) (target : Target) (world : World) :
    ∃ noted : World, noted.tree = world.tree ∧
      (target.refuses world.tree path append = true ∧
          claim path isFolder append (target, world) =
            (.error (.taken isFolder path), target, noted) ∨
        target.refuses world.tree path append = false ∧
          claim path isFolder append (target, world) = (.ok (), target.claiming path, noted)) := by
  let message := "open output ".toList ++ kindOfOutput isFolder ++ ": ".toList ++ path ++
    (if append then " (append)".toList else [])
  obtain ⟨noted, same, logged⟩ : ∃ noted : World, noted.tree = world.tree ∧
      (Act.note .info .output message : Act Target OutputFault Unit) (target, world) =
        (.ok (), target, noted) := ⟨_, World.note_tree world .info .output message [], rfl⟩
  refine ⟨noted, same, ?_⟩
  -- The log says what is opened before anything is checked.
  unfold claim
  rw [Act.bind_of_ok logged, Act.bind_of_ok (Act.own_apply _), Act.bind_of_ok (Act.world_apply _),
    ← same]
  split
  · rename_i there
    exact .inl ⟨there, Act.bind_of_error (Act.throw_apply ..)⟩
  · rename_i free
    exact .inr ⟨Bool.eq_false_iff.mpr free, rfl⟩

/-- Folders are made in the world's tree. -/
theorem makeFolders_apply (path : Text) (target : Target) (world : World) :
    ∃ made : World, made.tree = (world.tree.makeFolders path).2 ∧
      ((∃ fault, makeFolders path (target, world) = (.error (.unusable fault), target, made)) ∨
        (world.tree.makeFolders path).1 = .ok () ∧
          makeFolders path (target, world) = (.ok (), target, made)) := by
  refine ⟨{ world with tree := (world.tree.makeFolders path).2 }, rfl, ?_⟩
  unfold makeFolders
  rw [Act.bind_of_ok (Act.world_apply _)]
  -- The tree changes also when a folder could not be made: those before it were.
  rcases world.tree.makeFolders path with ⟨fault | _, tree⟩
  · exact .inl ⟨_, Act.bind_of_ok (Act.setTree_apply ..)⟩
  · exact .inr ⟨rfl, Act.bind_of_ok (Act.setTree_apply ..)⟩

/-- What comes of opening a folder. -/
inductive OpensFolder (folder : Text) (append : Bool) (target : Target) (before : FileTree) :
    Except OutputFault Unit × Target × World → Prop where
  /-- Something is there, and nothing is changed. -/
  | refused {after : World} (there : target.refuses before folder append = true)
      (same : after.tree = before) :
    OpensFolder folder append target before (.error (.taken true folder), target, after)
  /-- The folder is claimed, but cannot be made. -/
  | failed {fault : PathFault} {after : World}
      (makes : after.tree = (before.makeFolders folder).2) :
    OpensFolder folder append target before
      (.error (.unusable fault), target.claiming folder, after)
  /-- The folder is made, and kept. -/
  | opened {after : World} (whole : (before.makeFolders folder).1 = .ok ())
      (makes : after.tree = (before.makeFolders folder).2) :
    OpensFolder folder append target before
      (.ok (), { target.claiming folder with folder := some folder }, after)

/-- A folder is claimed, made and kept. -/
theorem openFolder_opens (folder : Text) (append : Bool) (target : Target) (world : World) :
    OpensFolder folder append target world.tree
      ((claim folder true append >>= fun _ => makeFolders folder >>= fun _ =>
        Act.change fun target => { target with folder := some folder }) (target, world)) := by
  -- The claim comes first, then the folders; each can end the opening with its own fault.
  obtain ⟨noted, same, ⟨there, refused⟩ | ⟨-, claimed⟩⟩ :=
    claim_apply folder true append target world
  · rw [Act.bind_of_error refused]
    exact .refused there same
  rw [Act.bind_of_ok claimed]
  obtain ⟨made, tree, ⟨fault, fails⟩ | ⟨whole, makes⟩⟩ :=
    makeFolders_apply folder (target.claiming folder) noted
  -- What was noted is in the log, so the folders are made in the tree as it was.
  all_goals rw [same] at tree
  · rw [Act.bind_of_error fails]
    exact .failed tree
  · rw [Act.bind_of_ok makes]
    rw [same] at whole
    exact .opened whole tree

/-- The folder of a split output is the one of its options, or the current one. -/
def splitFolder (options : OutputOptions) (tree : FileTree) : Text :=
  options.path.getD (FileTree.spell tree.home)

/-- A split output is opened with its folder. -/
theorem start_of_split {target : Target} (world : World) (split : target.options.split = true) :
    OpensFolder (splitFolder target.options world.tree) target.options.append target world.tree
      (start (target, world)) := by
  unfold start
  rw [Act.bind_of_ok (Act.own_apply _)]
  simp only [split, Bool.not_true, Bool.and_false, Bool.false_eq_true, if_false, if_true]
  unfold splitFolder
  -- The folder is the one that was given, or the one that the program runs in.
  cases given : target.options.path with
  | some path =>
    simp only
    rw [Act.bind_of_ok (Act.pure_apply ..)]
    exact openFolder_opens ..
  | none =>
    simp only
    have home : (homeFolder : Act Target OutputFault Text) (target, world) =
        (.ok (FileTree.spell world.tree.home), target, world) := rfl
    rw [Act.bind_of_ok home]
    exact openFolder_opens ..

/-- What comes of opening a file, when the folders above it are made below a folder. -/
inductive OpensFile (root : Location) (path : Text) (append : Bool) (target : Target)
    (before : FileTree) : Except OutputFault Handle × Target × World → Prop where
  /-- Something is there, and nothing is changed. -/
  | refused {after : World} (there : target.refuses before path append = true)
      (same : after.tree = before) :
    OpensFile root path append target before (.error (.taken false path), target, after)
  /-- The file is claimed, but only folders are made. -/
  | failed {fault : PathFault} {after : World}
      (allowed : target.refuses before path append = false)
      (grows : FileTree.Grows root [] before after.tree) :
    OpensFile root path append target before
      (.error (.unusable fault), target.claiming path, after)
  /-- The file is opened after folders were made. -/
  | opened {handle : Handle} {made : FileTree} {after : World}
      (allowed : target.refuses before path append = false)
      (grows : FileTree.Grows root [] before made)
      (opens : made.openFile path append = .ok (handle, after.tree)) :
    OpensFile root path append target before (.ok handle, target.claiming path, after)

/-- Once its folders are there a file is opened, or nothing is changed. -/
theorem openClaimed_opens (target : Target) {before : FileTree} {world : World} {path : Text}
    {append : Bool} {root : Location} (allowed : target.refuses before path append = false)
    (grows : FileTree.Grows root [] before world.tree) :
    OpensFile root path append target before
      ((Act.world >>= fun world =>
        match world.tree.openFile path append with
        | .error fault => throw (.unusable fault)
        | .ok (handle, tree) => Act.setTree tree >>= fun _ => pure handle)
        (target.claiming path, world)) := by
  rw [Act.bind_of_ok (Act.world_apply _)]
  -- The file is opened after the claim, so a fault leaves the claim behind.
  cases opens : world.tree.openFile path append with
  | error fault => exact .failed allowed grows
  | ok opened => exact .opened allowed grows opens

/-- A file is claimed, folders are made for it, and it is opened. -/
theorem openFile_opens (path : Text) (append : Bool) (target : Target) {world : World}
    {root : Location} (makes : ∀ above, Path.parent? path = some above →
      FileTree.Grows root [] world.tree (world.tree.makeFolders above).2) :
    OpensFile root path append target world.tree (openFile path append (target, world)) := by
  unfold openFile
  obtain ⟨noted, same, ⟨there, refused⟩ | ⟨allowed, claimed⟩⟩ :=
    claim_apply path false append target world
  · rw [Act.bind_of_error refused]
    exact .refused there same
  rw [Act.bind_of_ok claimed]
  cases parent : Path.parent? path with
  | none =>
    -- Without a parent there are no folders to make.
    refine openClaimed_opens target allowed ?_
    rw [same]
    exact .refl _ _ _
  | some above =>
    dsimp only
    obtain ⟨made, tree, ⟨fault, fails⟩ | ⟨-, done⟩⟩ :=
      makeFolders_apply above (target.claiming path) noted
    -- Folders that were made stay, even when a later one could not be made.
    all_goals
      have grows : FileTree.Grows root [] world.tree made.tree := by
        rw [tree, same]
        exact makes above parent
    · rw [Act.bind_of_error fails]
      exact .failed allowed grows
    · rw [Act.bind_of_ok done]
      exact openClaimed_opens target allowed grows

/-- Wherever its folders are made, a file is claimed and opened. -/
theorem openFile_opens_anywhere (path : Text) (append : Bool) (target : Target) (world : World) :
    OpensFile [] path append target world.tree (openFile path append (target, world)) :=
  openFile_opens path append target fun above _ => world.tree.makeFolders_grows above

/-- Standard output needs not be opened. -/
theorem start_of_standard {target : Target} (world : World) (whole : target.options.split = false)
    (none : target.options.path = none) : start (target, world) = (.ok (), target, world) := by
  unfold start
  rw [Act.bind_of_ok (Act.own_apply _)]
  simp only [whole, none, Option.isNone_none, Bool.not_false, Bool.and_self, if_true]
  rfl

/-- The single file of an output is opened and kept. -/
theorem start_of_single {target : Target} {path : Text} (world : World)
    (whole : target.options.split = false) (given : target.options.path = some path) :
    start (target, world) =
      match openFile path target.options.append (target, world) with
      | (.error fault, after) => (.error fault, after)
      | (.ok handle, opened, after) => (.ok (), { opened with handle := some handle }, after) := by
  unfold start
  rw [Act.bind_of_ok (Act.own_apply _)]
  simp only [whole, given, Option.isNone_some, Bool.false_and, Bool.false_eq_true, if_false]
  -- The handle is kept only if the file was opened.
  rw [Act.bind_of_ok (Act.pure_apply ..), Act.bind_apply]
  rcases openFile path target.options.append (target, world) with ⟨fault | handle, opened, after⟩
  · rfl
  · simp only
    rw [Act.change_apply]

/-- Whole lines are never empty. -/
theorem encode_ended_ne_nil (text : Text) : Utf8.encode (ended text) ≠ [] := by
  intro nothing
  -- Reading the bytes again would give an empty text, and a line has its end at least.
  have none : ended text = [] := by
    rw [← Utf8.decodeLossy_encode (ended text), nothing]
    rfl
  unfold ended at none
  split at none
  · rename_i last
    rw [none] at last
    cases last
  · simp at none

/-- Lines go to the open file, or to standard output. -/
theorem write_apply (text : Text) (target : Target) (world : World) :
    (target.handle = none ∧ ∃ printed : World, printed.tree = world.tree ∧
        write text (target, world) = (.ok (), target, printed)) ∨
      ∃ handle, target.handle = some handle ∧
        let wrote := world.tree.write handle (Utf8.encode (ended text))
        write text (target, world) =
          (.ok (), { target with handle := some wrote.1 }, { world with tree := wrote.2 }) := by
  unfold write
  rw [Act.bind_of_ok (Act.own_apply _)]
  -- Without an open file the lines are printed.
  cases found : target.handle with
  | none => exact .inl ⟨rfl, world.print (Utf8.encode (ended text)), rfl, rfl⟩
  | some handle =>
    refine .inr ⟨handle, rfl, ?_⟩
    simp only
    rw [Act.bind_of_ok (Act.world_apply _), Act.bind_of_ok (Act.setTree_apply ..),
      Act.change_apply]

/-- A file of a split output is opened in the folder that was opened, or in the current one, and its
content is written. -/
theorem writeFile_apply (relative content : Text) (target : Target) (world : World) :
    let path := Path.join (target.folder.getD (FileTree.spell world.tree.home)) relative
    ∃ note : LogEvent, writeFile relative content (target, world) =
      match openFile path false (target, world) with
      | (.error fault, after) => (.error fault, after)
      | (.ok handle, opened, after) =>
        (.ok path, opened, { after with
          tree := (after.tree.write handle (Utf8.encode content)).2
          log := after.log ++ [note] }) := by
  intro path
  let message := "created file: ".toList ++ path
  refine ⟨⟨.info, .output, message, []⟩, ?_⟩
  -- Whichever the folder is, the same is done in it.
  have based : writeFile relative content (target, world) =
      (openFile path false >>= fun handle => Act.world >>= fun world =>
        Act.setTree (world.tree.write handle (Utf8.encode content)).2 >>= fun _ =>
        Act.note .info .output message >>= fun _ => pure path) (target, world) := by
    unfold writeFile
    rw [Act.bind_of_ok (Act.own_apply _)]
    cases found : target.folder with
    | some folder =>
      simp only [path, message, found]
      rw [Act.bind_of_ok (Act.pure_apply ..)]
      rfl
    | none =>
      have home : (homeFolder : Act Target OutputFault Text) (target, world) =
          (.ok (FileTree.spell world.tree.home), target, world) := rfl
      simp only [path, message, found]
      rw [Act.bind_of_ok home]
      rfl
  -- A file that was not opened ends the writing; otherwise the content follows, and the note.
  rw [based, Act.bind_apply]
  rcases openFile path false (target, world) with ⟨fault | handle, opened, after⟩
  · rfl
  · simp only
    rw [Act.bind_of_ok (Act.world_apply _), Act.bind_of_ok (Act.setTree_apply ..),
      Act.bind_of_ok (Act.note_apply ..), Act.pure_apply]
    rfl

/-- Nothing is changed when something is there that may not be touched. -/
def Untouched {α σ : Type} (before : FileTree) (result : Except OutputFault α × σ × World) : Prop :=
  ∀ isFolder path, result.1 = .error (.taken isFolder path) → result.2.2.tree = before

/-- What does not fail is no refusal. -/
theorem untouched_of_ok {α σ : Type} {before : FileTree} {result : Except OutputFault α × σ × World}
    (value : α) (ok : result.1 = .ok value) : Untouched before result := by
  intro isFolder path taken
  rw [ok] at taken
  cases taken

/-- A fault that is passed on is a refusal only if it was one. -/
theorem Untouched.passOn {α β σ τ : Type} {before : FileTree} {fault : OutputFault} {own : σ}
    {after : World}
    (untouched : Untouched before ((.error fault, own, after) : Except OutputFault α × σ × World))
    (other : τ) :
    Untouched before ((.error fault, other, after) : Except OutputFault β × τ × World) := by
  intro isFolder path taken
  cases taken
  exact untouched isFolder path rfl

/-- A file that is refused is not touched, and neither is anything else. -/
theorem openFile_untouched (path : Text) (append : Bool) (target : Target) (world : World) :
    Untouched world.tree (openFile path append (target, world)) := by
  have opens := openFile_opens_anywhere path append target world
  -- Of the three outcomes only a refusal is told as such.
  generalize openFile path append (target, world) = result at opens
  cases opens with
  | refused _ same => exact fun _ _ _ => same
  | failed | opened => exact nofun

/-- A file of a split output that is refused is not touched, and neither is anything else. -/
theorem writeFile_untouched (relative content : Text) (target : Target) (world : World) :
    Untouched world.tree (writeFile relative content (target, world)) := by
  obtain ⟨note, wrote⟩ := writeFile_apply relative content target world
  rw [wrote]
  have untouched := openFile_untouched
    (Path.join (target.folder.getD (FileTree.spell world.tree.home)) relative) false target world
  generalize openFile _ false (target, world) = result at untouched
  rcases result with ⟨fault | handle, opened, after⟩
  · exact untouched.passOn opened
  · exact nofun

/-- An output that is refused when it is opened is not touched, and neither is anything else. -/
theorem start_untouched (target : Target) (world : World) :
    Untouched world.tree (start (target, world)) := by
  cases split : target.options.split with
  | true =>
    have opens := start_of_split world split
    generalize start (target, world) = result at opens
    cases opens with
    | refused _ same => exact fun _ _ _ => same
    | failed | opened => exact nofun
  | false =>
    cases given : target.options.path with
    | none =>
      rw [start_of_standard world split given]
      exact nofun
    | some path =>
      rw [start_of_single world split given]
      have untouched := openFile_untouched path target.options.append target world
      generalize openFile path target.options.append (target, world) = result at untouched
      rcases result with ⟨fault | handle, opened, after⟩
      · exact untouched.passOn opened
      · exact nofun

/-- Lines are always written. -/
theorem write_ok (text : Text) (target : Target) (world : World) :
    (write text (target, world)).1 = .ok () := by
  rcases write_apply text target world with ⟨-, printed, -, wrote⟩ | ⟨handle, -, wrote⟩ <;>
    rw [wrote]

end Target
end IdlScout
