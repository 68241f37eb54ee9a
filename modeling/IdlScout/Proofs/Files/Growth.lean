import IdlScout.Proofs.Files.Leads
import IdlScout.Proofs.Files.Names

/-! Trees that grow below a folder: what making folders and writing files there changes, and that
all else stays as it was. -/

namespace IdlScout

/-- What stands at a place after a tree grew there: a new folder, or a file where one was written,
which was free or a file before. -/
inductive EntryGrows (written : Prop) : Option Entry → Option Entry → Prop where
  | folder : EntryGrows written none (some .folder)
  | made {content : Bytes} {executable : Bool} (isWritten : written) :
    EntryGrows written none (some (.file content executable))
  | rewritten {content old : Bytes} {executable wasExecutable : Bool} (isWritten : written) :
    EntryGrows written (some (.file old wasExecutable)) (some (.file content executable))

/-- Files that were written before count as written. -/
theorem EntryGrows.mono {written more : Prop} {before after : Option Entry}
    (grows : EntryGrows written before after) (weaker : written → more) :
    EntryGrows more before after := by
  cases grows with
  | folder => exact .folder
  | made isWritten => exact .made (weaker isWritten)
  | rewritten isWritten => exact .rewritten (weaker isWritten)

namespace FileTree

/-- Below a folder nothing loses what is written to it. -/
def Lossless (tree : FileTree) (root : Location) : Prop :=
  ∀ place, IsBelow root place → tree.entry? place ≠ some .void

/-- Where nothing that loses content is listed, nothing below a folder does. -/
theorem Lossless.of_entries {tree : FileTree} {root : Location}
    (none : ∀ listed ∈ tree.entries, listed.2 ≠ .void) : tree.Lossless root := by
  intro place below found
  exact none _ (listed below.inner found) rfl

/-- A tree grows below a folder: only there are folders added, and of the files only those at some
places are written. -/
structure Grows (root : Location) (written : List Location) (before after : FileTree) : Prop where
  home : after.home = before.home
  entries : ∀ place, after.entry? place = before.entry? place ∨
    (IsBelow root place ∧
      EntryGrows (place ∈ written) (before.entry? place) (after.entry? place))

namespace Grows

variable {root : Location} {written more : List Location} {before middle after : FileTree}

/-- A tree that stays as it is grows. -/
theorem refl (root : Location) (written : List Location) (tree : FileTree) :
    Grows root written tree tree :=
  ⟨rfl, fun _ => .inl rfl⟩

/-- A tree that grows twice grows. -/
theorem trans (first : Grows root written before middle) (second : Grows root more middle after) :
    Grows root (written ++ more) before after := by
  refine ⟨second.home.trans first.home, fun place => ?_⟩
  -- A place may change in the first growth, in the second, or in both.
  rcases second.entries place with same | ⟨below, later⟩
  · rw [same]
    rcases first.entries place with kept | ⟨below, grows⟩
    · exact .inl kept
    · exact .inr ⟨below, grows.mono fun member => List.mem_append_left _ member⟩
  · replace later := later.mono fun member => List.mem_append_right written member
    rcases first.entries place with kept | ⟨-, grows⟩
    · rw [kept] at later
      exact .inr ⟨below, later⟩
    · -- What came first is a folder, which never changes again, or a file.
      generalize before.entry? place = was at grows ⊢
      generalize middle.entry? place = between at grows later
      generalize after.entry? place = now at later ⊢
      cases grows with
      | folder => cases later
      | made =>
        cases later with
        | rewritten isWritten => exact .inr ⟨below, .made isWritten⟩
      | rewritten =>
        cases later with
        | rewritten isWritten => exact .inr ⟨below, .rewritten isWritten⟩

/-- More places may count as written. -/
theorem mono (grows : Grows root written before after) (weaker : written ⊆ more) :
    Grows root more before after :=
  ⟨grows.home, fun place => (grows.entries place).imp_right fun ⟨below, changed⟩ =>
    ⟨below, changed.mono fun member => weaker member⟩⟩

/-- What stands at a place stays there, unless it is a file that is written. -/
theorem of_found {place : Location} {entry : Entry} (grows : Grows root written before after)
    (found : before.entry? place = some entry) :
    after.entry? place = some entry ∨ (place ∈ written ∧ (∃ old was, entry = .file old was) ∧
      ∃ content executable, after.entry? place = some (.file content executable)) := by
  rcases grows.entries place with same | ⟨-, changed⟩
  · exact .inl (same.trans found)
  · -- Of the changes only one starts from an entry, and that is a file which is written.
    rw [found] at changed
    generalize after.entry? place = now at changed
    cases changed with
    | rewritten isWritten => exact .inr ⟨isWritten, ⟨_, _, rfl⟩, _, _, rfl⟩

/-- What is no file stays what it is. -/
theorem kept {place : Location} {entry : Entry} (grows : Grows root written before after)
    (noFile : ∀ content executable, entry ≠ .file content executable)
    (found : before.entry? place = some entry) : after.entry? place = some entry := by
  rcases grows.of_found found with same | ⟨-, ⟨old, was, rfl⟩, -⟩
  · exact same
  · exact absurd rfl (noFile old was)

/-- A file stays a file. -/
theorem file {place : Location} {old : Bytes} {was : Bool}
    (grows : Grows root written before after) (found : before.entry? place = some (.file old was)) :
    ∃ content executable, after.entry? place = some (.file content executable) := by
  rcases grows.of_found found with same | ⟨-, -, now⟩
  · exact ⟨old, was, same⟩
  · exact now

/-- What is not written stays as it is. -/
theorem unwritten {place : Location} {entry : Entry} (grows : Grows root written before after)
    (notWritten : place ∉ written) (found : before.entry? place = some entry) :
    after.entry? place = some entry :=
  (grows.of_found found).resolve_right fun ⟨isWritten, _⟩ => notWritten isWritten

/-- What stands at a place stood there before, unless it is a folder or a file. -/
theorem of_added {place : Location} {entry : Entry} (grows : Grows root written before after)
    (found : after.entry? place = some entry) :
    before.entry? place = some entry ∨ entry = .folder ∨
      ∃ content executable, entry = .file content executable := by
  rcases grows.entries place with same | ⟨-, changed⟩
  · exact .inl (same.symm.trans found)
  · -- A change makes a folder or a file, or writes a file anew.
    rw [found] at changed
    generalize before.entry? place = was at changed
    cases changed with
    | folder => exact .inr (.inl rfl)
    | made => exact .inr (.inr ⟨_, _, rfl⟩)
    | rewritten => exact .inr (.inr ⟨_, _, rfl⟩)

/-- No link is added. -/
theorem unlinked {folder : Location} (grows : Grows root written before after)
    (unlinked : before.Unlinked folder) : after.Unlinked folder := by
  intro place target below found
  have there := (grows.of_added found).resolve_right (by simp)
  exact unlinked place target below there

/-- Nothing that loses content is added. -/
theorem lossless {folder : Location} (grows : Grows root written before after)
    (lossless : before.Lossless folder) : after.Lossless folder := by
  intro place below found
  have there := (grows.of_added found).resolve_right (by simp)
  exact lossless place below there

/-- Paths start where they did. -/
theorem origin (grows : Grows root written before after) (path : Text) :
    after.origin path = before.origin path := by
  rw [FileTree.origin, FileTree.origin, grows.home]

/-- What steps led to they lead to still. -/
theorem leads {followLast : Bool} {links : Nat} {current place : Location} {steps : List Text}
    (grows : Grows root written before after)
    (leads : before.Leads followLast links current steps (.present place)) :
    after.Leads followLast links current steps (.present place) := by
  have folderKept {place : Location} (found : before.entry? place = some .folder) :
      after.entry? place = some .folder := grows.kept (fun _ _ => by simp) found
  have linkKept {place : Location} {target : Text}
      (found : before.entry? place = some (.link target)) :
      after.entry? place = some (.link target) := grows.kept (fun _ _ => by simp) found
  -- A file can only be at the end of the way, where its content does not matter.
  generalize ends : Destination.present place = goal at leads
  induction leads with
  | stop => exact .stop
  | here folder leads ih => exact .here (folderKept folder) (ih ends)
  | up folder leads ih => exact .up (folderKept folder) (ih ends)
  | free => cases ends
  | link folder name fits found stays =>
    -- A link leads on as it did, since growth changes none.
    exact .link (folderKept folder) name fits (linkKept found) stays
  | through folder name fits found goesOn leads ih =>
    exact .through (folderKept folder) name fits (linkKept found) goesOn (ih ends)
  | into folder name fits found noLink leads ih =>
    rename_i entry
    -- The rest of the way starts from what stands here now.
    cases entry with
    | link target => exact absurd rfl (noLink target)
    | file content executable =>
      obtain ⟨_, _, now⟩ := grows.file found
      exact .into (folderKept folder) name fits now (fun _ => by simp) (ih ends)
    | folder | void =>
      have now := grows.kept (fun _ _ => by simp) found
      exact .into (folderKept folder) name fits now noLink (ih ends)

/-- A new folder is growth. -/
theorem ofFolder {tree : FileTree} {place : Location} (below : IsBelow root place)
    (absent : tree.entry? place = none) : Grows root [] tree (tree.put place .folder) := by
  refine ⟨rfl, fun other => ?_⟩
  rw [entry_put tree below.inner]
  -- Only the place of the new folder has another entry.
  by_cases same : other = place
  · subst same
    rw [if_pos rfl, absent]
    exact .inr ⟨below, .folder⟩
  · exact .inl (if_neg same)

/-- A file that is written at a free place, or over another file, is growth. -/
theorem ofFile {tree : FileTree} {place : Location} (below : IsBelow root place)
    (before : tree.entry? place = none ∨
      ∃ old wasExecutable, tree.entry? place = some (.file old wasExecutable))
    (content : Bytes) (executable : Bool) :
    Grows root [place] tree (tree.put place (.file content executable)) := by
  refine ⟨rfl, fun other => ?_⟩
  rw [entry_put tree below.inner]
  -- Only the place of the file has another entry.
  by_cases same : other = place
  · subst same
    rw [if_pos rfl]
    refine .inr ⟨below, ?_⟩
    rcases before with absent | ⟨old, wasExecutable, found⟩
    · rw [absent]
      exact .made (by simp)
    · rw [found]
      exact .rewritten (by simp)
  · exact .inl (if_neg same)

end Grows

/-- What a path finds is where its steps lead, if it can be looked up. -/
theorem locate_eq_ok_iff {tree : FileTree} {followLast : Bool} {path : Text} {goal : Destination} :
    tree.locate followLast path = .ok goal ↔ check path = .ok () ∧
      tree.Leads followLast linkLimit (tree.origin path) (steps path) goal := by
  unfold locate
  -- A path that is refused outright finds nothing, wherever its steps lead.
  cases usable : check path with
  | error fault => exact ⟨nofun, fun ⟨found, _⟩ => nomatch found⟩
  | ok =>
    exact ⟨fun found => ⟨rfl, leads_of_follow found⟩, fun ⟨_, leads⟩ => leads.follow⟩

/-- An entry that a path leads to stays there while a tree grows. -/
theorem Grows.locate {root : Location} {written : List Location} {before after : FileTree}
    (grows : Grows root written before after) {followLast : Bool} {path : Text} {place : Location}
    (found : before.locate followLast path = .ok (.present place)) :
    after.locate followLast path = .ok (.present place) := by
  obtain ⟨usable, leads⟩ := locate_eq_ok_iff.mp found
  refine locate_eq_ok_iff.mpr ⟨usable, ?_⟩
  rw [grows.origin]
  exact grows.leads leads

/-- The folder that paths below a path start from: below the empty path they start from the folder
that paths without a root start from. -/
def base? (tree : FileTree) (path : Text) : Option Location :=
  if path.isEmpty then
    if tree.entry? tree.home = some .folder then some tree.home else none
  else
    match tree.find path with
    | .ok (place, .folder) => some place
    | _ => none

/-- A folder that a path is found to lead to is its base. -/
theorem base?_of_find {tree : FileTree} {path : Text} {place : Location} (nonempty : path ≠ [])
    (found : tree.find path = .ok (place, .folder)) : tree.base? path = some place := by
  simp [base?, nonempty, found]

/-- The base of a path is a folder that it leads to. -/
theorem base?_eq_some_iff {tree : FileTree} {path : Text} {root : Location} :
    tree.base? path = some root ↔ tree.entry? root = some .folder ∧
      if path = [] then root = tree.home else tree.locate true path = .ok (.present root) := by
  unfold base?
  -- The empty path asks for the home alone, any other for what it finds.
  by_cases empty : path = []
  · subst empty
    by_cases folder : tree.entry? tree.home = some .folder
    · simp only [List.isEmpty_nil, if_true, folder, Option.some.injEq]
      exact ⟨fun same => ⟨same ▸ folder, same.symm⟩, fun ⟨_, same⟩ => same.symm⟩
    · simp only [List.isEmpty_nil, if_true, folder, if_false, reduceCtorEq, false_iff]
      rintro ⟨found, rfl⟩
      exact folder found
  · have nonempty : path.isEmpty = false := by simpa using empty
    simp only [nonempty, Bool.false_eq_true, if_false, empty, find]
    cases located : tree.locate true path with
    | error fault => simp [Bind.bind, Except.bind]
    | ok goal =>
      cases goal with
      | absent place => simp [Bind.bind, Except.bind, arrive]
      | present place =>
        simp only [Bind.bind, Except.bind, arrive, Except.ok.injEq, Destination.present.injEq]
        -- The path is found to lead here, so what counts is whether a folder stands here.
        cases found : tree.entry? place with
        | none =>
          refine ⟨nofun, ?_⟩
          rintro ⟨folder, rfl⟩
          rw [found] at folder
          cases folder
        | some entry =>
          cases entry with
          | folder =>
            refine ⟨fun same => ?_, fun ⟨_, same⟩ => congrArg some same⟩
            cases same
            exact ⟨found, rfl⟩
          | file | link | void =>
            refine ⟨nofun, ?_⟩
            rintro ⟨folder, rfl⟩
            rw [found] at folder
            cases folder

/-- The base of a path stays while a tree grows. -/
theorem Grows.base {root folder : Location} {written : List Location} {before after : FileTree}
    {path : Text} (grows : Grows folder written before after)
    (base : before.base? path = some root) : after.base? path = some root := by
  obtain ⟨found, leads⟩ := base?_eq_some_iff.mp base
  refine base?_eq_some_iff.mpr ⟨grows.kept (fun _ _ => by simp) found, ?_⟩
  -- The home is kept, and so is what another path finds.
  by_cases empty : path = []
  · rw [if_pos empty] at leads ⊢
    exact leads.trans grows.home.symm
  · rw [if_neg empty] at leads ⊢
    exact grows.locate leads

/-- The names of a path lead to its base. -/
theorem leads_of_base? {tree : FileTree} {path : Text} {root : Location}
    (base : tree.base? path = some root) :
    tree.Leads true linkLimit (tree.origin path) (Path.names path) (.present root) := by
  obtain ⟨-, found⟩ := base?_eq_some_iff.mp base
  split at found
  · rename_i empty
    subst empty found
    exact .stop
  · have leads := (locate_eq_ok_iff.mp found).2
    unfold steps at leads
    split at leads
    · -- The last step stays in the folder that the names lead to.
      obtain ⟨place, left, before, after⟩ := leads.split (List.cons_ne_nil _ _)
      obtain rfl : root = place := Destination.present.inj after.of_point
      exact before
    · exact leads

/-- Steps that go on from the base of a path lead on from that folder. -/
theorem leads_below_base {tree : FileTree} {path : Text} {root : Location}
    (base : tree.base? path = some root) {followLast : Bool} {rest : List Text}
    (nonempty : rest ≠ []) {goal : Destination}
    (leads : tree.Leads followLast linkLimit (tree.origin path) (Path.names path ++ rest) goal) :
    ∃ left, tree.Leads followLast left root rest goal := by
  obtain ⟨place, left, before, after⟩ := leads.split nonempty
  cases before.unique (leads_of_base? base)
  exact ⟨left, after⟩

/-- A folder is made where the names of its path lead to a free name. -/
theorem of_makeFolder {tree made : FileTree} {path : Text}
    (makes : tree.makeFolder path = .ok made) :
    ∃ place, tree.Leads false linkLimit (tree.origin path) (Path.names path) (.absent place) ∧
      check path = .ok () ∧ made = tree.put place .folder := by
  unfold makeFolder at makes
  cases usable : check path with
  | error fault => simp [usable, Bind.bind, Except.bind] at makes
  | ok =>
    cases located : tree.locate false (dropSlashes path) with
    | error fault => simp [usable, located, Bind.bind, Except.bind] at makes
    | ok goal =>
      -- A folder that was there already is not made.
      cases goal with
      | present place => simp [usable, located, Bind.bind, Except.bind, throw, throwThe,
          MonadExceptOf.throw] at makes
      | absent place =>
        obtain rfl : tree.put place .folder = made := by
          simpa [usable, located, Bind.bind, Except.bind, pure, Except.pure] using makes
        refine ⟨place, ?_, rfl, rfl⟩
        have leads := (locate_eq_ok_iff.mp located).2
        obtain ⟨starts, same | ⟨absolute, only⟩⟩ := of_dropSlashes path
        · -- Slashes at the end were dropped, which leaves the names as they are.
          rwa [same, tree.origin_congr starts] at leads
        · -- The root is never made.
          rw [only] at leads
          cases leads.of_point

/-- However a tree grows below a folder, a folder that a path makes is below it. -/
def Confined (tree : FileTree) (root : Location) (path : Text) : Prop :=
  ∀ after, Grows root [] tree after → ∀ place,
    after.Leads false linkLimit (after.origin path) (Path.names path) (.absent place) →
      IsBelow root place

/-- What is confined stays so while a tree grows. -/
theorem Confined.grows {tree after : FileTree} {root : Location} {path : Text}
    (confined : tree.Confined root path) (grows : Grows root [] tree after) :
    after.Confined root path := fun later more place leads =>
  confined later (by simpa using grows.trans more) place leads

/-- Making a folder whose path is confined is growth. -/
theorem Confined.makeFolder {tree made : FileTree} {root : Location} {path : Text}
    (confined : tree.Confined root path) (makes : tree.makeFolder path = .ok made) :
    Grows root [] tree made := by
  obtain ⟨place, leads, -, rfl⟩ := of_makeFolder makes
  exact .ofFolder (confined tree (.refl _ _ _) place leads) leads.of_absent.2

/-- Making folders whose paths are confined is growth, even when it fails in the end. -/
theorem makeEach_grows {tree : FileTree} {root : Location} {paths : List Text}
    (confined : ∀ path ∈ paths, tree.Confined root path) :
    Grows root [] tree (tree.makeEach paths).2 := by
  induction paths with
  | nil => exact .refl _ _ _
  | cons path above ih =>
    have first := confined path (by simp)
    have later := ih fun other member => confined other (by simp [member])
    rw [makeEach]
    -- A folder whose parent is missing is tried twice.
    cases makes : tree.makeFolder path with
    | ok made => exact first.makeFolder makes
    | error fault =>
      cases fault with
      | missing =>
        -- The folders above are made first, and the path is tried again.
        simp only
        rcases reaches : tree.makeEach above with ⟨fault | _, reached⟩
        · rwa [reaches] at later
        · rw [reaches] at later
          simp only
          cases again : reached.makeFolder path with
          | error fault => exact later
          | ok made => simpa using later.trans ((first.grows later).makeFolder again)
      | taken | notFolder | isFolder | tooManyLinks | tooLong | unusable => exact .refl _ _ _

/-- Making folders is growth. -/
theorem makeFolders_grows (tree : FileTree) (path : Text) :
    Grows [] [] tree (tree.makeFolders path).2 :=
  makeEach_grows fun _ _ _ _ _ leads => ⟨List.nil_prefix, leads.of_absent.1⟩

/-- A folder that was made is there. -/
theorem hasFolder_of_makeFolder {tree made : FileTree} {path : Text}
    (makes : tree.makeFolder path = .ok made) : made.hasFolder path = true := by
  obtain ⟨place, leads, usable, rfl⟩ := of_makeFolder makes
  obtain ⟨inner, absent⟩ := leads.of_absent
  have folder : entry? (tree.put place .folder) place = some .folder := by
    rw [entry_put tree inner, if_pos rfl]
  have found : (tree.put place .folder).locate true path = .ok (.present place) := by
    -- What names led to they lead to still, and what stands at their end is the folder.
    refine locate_eq_ok_iff.mpr ⟨usable, ?_⟩
    have noLink : ∀ target, Entry.folder ≠ .link target := fun _ => by simp
    have names := leads.put noLink
    unfold steps
    split
    · -- A slash at the end is one more step, which a folder takes.
      exact names.concat_here folder
    · exact names
  simp [hasFolder, find, found, Bind.bind, Except.bind, arrive, folder]

/-- Folders that were made without a fault are there. -/
theorem hasFolder_of_makeEach {tree : FileTree} {path : Text} {above : List Text}
    (makes : (tree.makeEach (path :: above)).1 = .ok ()) :
    (tree.makeEach (path :: above)).2.hasFolder path = true := by
  rw [makeEach] at makes ⊢
  cases made : tree.makeFolder path with
  | ok made' => exact hasFolder_of_makeFolder made
  | error fault =>
    simp only [made] at makes
    cases fault with
    | missing =>
      simp only at makes ⊢
      rcases reaches : tree.makeEach above with ⟨fault | _, reached⟩
      · simp [reaches] at makes
      · simp only [reaches] at makes ⊢
        cases again : reached.makeFolder path with
        | ok made' => exact hasFolder_of_makeFolder again
        | error fault =>
          -- A fault is none only if the folder was there already.
          simp only [again] at makes ⊢
          by_cases there : reached.hasFolder path = true
          · exact there
          · simp [there] at makes
    | taken | notFolder | isFolder | tooManyLinks | tooLong | unusable =>
      simp only at makes ⊢
      -- Any other fault is none only if the folder was there before.
      by_cases there : tree.hasFolder path = true
      · exact there
      · simp [there] at makes

/-- After its folders were made a path is the base of others. -/
theorem base?_of_makeFolders {tree : FileTree} (home : tree.entry? tree.home = some .folder)
    {path : Text} (makes : (tree.makeFolders path).1 = .ok ()) :
    ∃ root, (tree.makeFolders path).2.base? path = some root := by
  have grows := tree.makeFolders_grows path
  by_cases empty : path = []
  · -- The home is a folder from the start, and growth keeps it.
    refine ⟨tree.home, base?_eq_some_iff.mpr ⟨grows.kept (fun _ _ => by simp) home, ?_⟩⟩
    rw [if_pos empty, grows.home]
  · have nonempty : path.isEmpty = false := by simpa using empty
    have there : (tree.makeFolders path).2.hasFolder path = true := by
      unfold makeFolders at makes ⊢
      rw [upward, if_neg (by simp [nonempty])] at makes ⊢
      exact hasFolder_of_makeEach makes
    unfold hasFolder at there
    split at there
    · next place found => exact ⟨place, base?_of_find empty found⟩
    · cases there

/-- A path with the first of the names that go on from a folder is confined to it, if these stay
inside. -/
theorem confined_of_base? {tree : FileTree} {folder path : Text} {root : Location}
    (base : tree.base? folder = some root) (unlinked : tree.Unlinked root)
    (starts : Path.isAbsolute path = Path.isAbsolute folder) {rest : List Text}
    (names : Path.names path <+: Path.names folder ++ rest) (stays : staysInside 0 rest = true) :
    -- What is free at the end of the path lies on the way to the base, or behind it.
    tree.Confined root path := by
  intro after grows place leads
  replace base := grows.base base
  rw [after.origin_congr starts] at leads
  have toBase := leads_of_base? base
  rcases List.prefix_or_prefix_of_prefix names (List.prefix_append _ rest) with above | below
  · -- On the way to the folder nothing is missing.
    obtain ⟨more, whole⟩ := above
    have present : ∃ there, after.Leads true linkLimit (after.origin folder) (Path.names path)
        (.present there) := by
      cases more with
      | nil => exact ⟨root, by rwa [← whole, List.append_nil] at toBase⟩
      | cons step more =>
        rw [← whole] at toBase
        obtain ⟨there, left, before, -⟩ := toBase.split (List.cons_ne_nil _ _)
        exact ⟨there, before⟩
    obtain ⟨there, found⟩ := present
    cases found.unique leads.followed
  · obtain ⟨more, whole⟩ := below
    rw [← whole] at names leads
    have first := (List.prefix_append_right_inj _).mp names
    cases more with
    | nil =>
      rw [List.append_nil] at leads
      cases toBase.unique leads.followed
    | cons step more =>
      obtain ⟨left, onward⟩ := leads_below_base base (List.cons_ne_nil _ _) leads
      -- What lies behind the base stays inside, as the first of the names do.
      rw [← List.append_nil root] at onward
      exact onward.isInside (grows.unlinked unlinked) (staysInside_of_first first stays)

/-- Wherever a path leads, it leads to the root or below it. -/
theorem isInside_root {tree : FileTree} {path : Text} {goal : Destination}
    (located : tree.locate true path = .ok goal) : goal.IsInside [] := by
  cases goal with
  | present => exact List.nil_prefix
  | absent place => exact ⟨List.nil_prefix, (locate_eq_ok_iff.mp located).2.of_absent.1⟩

/-- A file below a folder was written: its path leads to its place, which holds the content
unless what is written there is lost. -/
structure WritesFile (root place : Location) (path : Text) (content : Bytes)
    (before after : FileTree) : Prop where
  grows : Grows root [place] before after
  below : IsBelow root place
  leads : after.locate true path = .ok (.present place)
  content : after.entry? place = some .void ∨
    ∃ executable, after.entry? place = some (.file content executable)

/-- A file that is opened is empty, or holds what it held before if bytes are to be appended. -/
theorem keepsFile_of_openFile {tree opened : FileTree} {path : Text} {append : Bool}
    {handle : Handle} {root : Location} (opens : tree.openFile path append = .ok (handle, opened))
    (folder : tree.entry? root = some .folder)
    (inside : ∀ goal, tree.locate true path = .ok goal → goal.IsInside root) :
    handle = ⟨handle.location, 0, append⟩ ∧
      ∃ kept, WritesFile root handle.location path kept tree opened ∧
        (kept = [] ∨ append = true ∧
          ∃ executable, tree.entry? handle.location = some (.file kept executable)) := by
  unfold openFile at opens
  -- Where the path leads decides what is opened, and a free name is made a file.
  cases located : tree.locate true path with
  | error fault => simp [located, Bind.bind, Except.bind] at opens
  | ok goal =>
    have within := inside goal located
    obtain ⟨usable, leads⟩ := locate_eq_ok_iff.mp located
    cases goal with
    | absent place =>
      obtain ⟨rfl, rfl⟩ : Handle.mk place 0 append = handle ∧
          tree.put place (.file [] false) = opened := by
        simpa [located, Bind.bind, Except.bind, pure, Except.pure] using opens
      refine ⟨rfl, [], ⟨.ofFile within (.inl leads.of_absent.2) _ _, within,
        locate_eq_ok_iff.mpr ⟨usable, leads.put fun _ => by simp⟩, .inr ⟨false, ?_⟩⟩, .inl rfl⟩
      rw [entry_put tree within.inner, if_pos rfl]
    | present place =>
      -- Only the folder itself is inside without being below it, and a folder is not opened.
      have below {entry : Entry} (found : tree.entry? place = some entry)
          (other : entry ≠ .folder) :
          IsBelow root place :=
        ⟨within, fun same => other (by
          rw [same, folder] at found
          exact (Option.some.inj found).symm)⟩
      cases found : tree.entry? place with
      | none => simp [located, found, Bind.bind, Except.bind, throw, throwThe,
          MonadExceptOf.throw] at opens
      | some entry =>
        cases entry with
        | folder | link => simp [located, found, Bind.bind, Except.bind, throw, throwThe,
            MonadExceptOf.throw] at opens
        -- What is written here is lost, so nothing has to be kept.
        | void =>
          obtain ⟨rfl, rfl⟩ : Handle.mk place 0 append = handle ∧ tree = opened := by
            simpa [located, found, Bind.bind, Except.bind, pure, Except.pure] using opens
          exact ⟨rfl, [], ⟨.refl _ _ _, below found (by simp), located, .inl found⟩, .inl rfl⟩
        | file old executable =>
          -- The content is dropped, unless what is written goes behind it.
          let kept := if append then old else []
          obtain ⟨rfl, rfl⟩ : Handle.mk place 0 append = handle ∧
              tree.put place (.file kept executable) = opened := by
            simpa [located, found, Bind.bind, Except.bind, pure, Except.pure] using opens
          have below := below found (by simp)
          have grows : Grows root [place] tree (tree.put place (.file kept executable)) :=
            .ofFile below (.inr ⟨old, executable, found⟩) _ _
          refine ⟨rfl, kept, ⟨grows, below, grows.locate located, .inr ⟨executable, ?_⟩⟩, ?_⟩
          · rw [entry_put tree below.inner, if_pos rfl]
          · cases append with
            | false => exact .inl rfl
            | true => exact .inr ⟨rfl, executable, found⟩

/-- A file that is opened anew is empty. -/
theorem writesFile_of_openFile {tree opened : FileTree} {path : Text} {handle : Handle}
    {root : Location} (opens : tree.openFile path false = .ok (handle, opened))
    (folder : tree.entry? root = some .folder)
    (inside : ∀ goal, tree.locate true path = .ok goal → goal.IsInside root) :
    handle = ⟨handle.location, 0, false⟩ ∧
      WritesFile root handle.location path [] tree opened := by
  obtain ⟨fresh, kept, writes, rfl | ⟨appends, -⟩⟩ := keepsFile_of_openFile opens folder inside
  · exact ⟨fresh, writes⟩
  · cases appends

/-- What is written to an empty file from its start is its content. -/
theorem WritesFile.write {tree opened : FileTree} {root place : Location} {path : Text}
    (opens : WritesFile root place path [] tree opened) (bytes : Bytes) :
    WritesFile root place path bytes tree (opened.write ⟨place, 0, false⟩ bytes).2 := by
  obtain ⟨grows, below, leads, content⟩ := opens
  -- Writing to nowhere changes nothing, and neither does writing no bytes.
  rcases content with lost | ⟨executable, empty⟩
  · have same : (opened.write ⟨place, 0, false⟩ bytes).2 = opened := by
      simp [FileTree.write, lost]
    rw [same]
    exact ⟨grows, below, leads, .inl lost⟩
  · by_cases none : bytes = []
    · subst none
      have same : (opened.write ⟨place, 0, false⟩ []).2 = opened := by
        simp [FileTree.write, empty]
      rw [same]
      exact ⟨grows, below, leads, .inr ⟨executable, empty⟩⟩
    · have written : (opened.write ⟨place, 0, false⟩ bytes).2 =
          opened.put place (.file bytes executable) := by
        simp [FileTree.write, empty, none, overwrite]
      have more : Grows root [place] opened (opened.put place (.file bytes executable)) :=
        .ofFile below (.inr ⟨[], executable, empty⟩) _ _
      rw [written]
      refine ⟨?_, below, more.locate leads, .inr ⟨executable, ?_⟩⟩
      · exact (grows.trans more).mono fun _ member => by simpa using member
      · rw [entry_put opened below.inner, if_pos rfl]

/-- Whatever is written through a handle, only the file at its place grows. -/
theorem write_grows (tree : FileTree) (handle : Handle) (bytes : Bytes) :
    Grows [] [handle.location] tree (tree.write handle bytes).2 ∧
      (tree.write handle bytes).1.location = handle.location := by
  unfold write
  split
  · rename_i content executable found
    split
    · exact ⟨.refl _ _ _, rfl⟩
    · -- The root is a folder, so the file is below it.
      have inner : handle.location ≠ [] := fun top => by
        rw [top] at found
        cases found
      exact ⟨.ofFile ⟨List.nil_prefix, inner⟩ (.inr ⟨content, executable, found⟩) _ _, rfl⟩
  · exact ⟨.refl _ _ _, rfl⟩

end FileTree
end IdlScout
