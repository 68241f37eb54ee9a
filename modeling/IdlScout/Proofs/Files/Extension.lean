import IdlScout.Proofs.Files.Growth

/-! A tree that grew where nothing was: what was there is as it was, and paths that found nothing
lead to new places only. -/

namespace IdlScout
namespace FileTree

/-- A tree whose entries stand in folders, and whose links do not climb. -/
structure IsLevel (tree : FileTree) : Prop where
  inFolder : ∀ place entry, place ≠ [] → tree.entry? place = some entry →
    tree.entry? place.dropLast = some .folder
  links : ∀ place target, tree.entry? place = some (.link target) → "..".toList ∉ steps target

/-- Where an entry stands in a folder, that folder is there. -/
theorem IsLevel.folder {tree : FileTree} {folder : Location} {name : Text} {entry : Entry}
    (level : tree.IsLevel) (found : tree.entry? (folder ++ [name]) = some entry) :
    tree.entry? folder = some .folder := by
  simpa using level.inFolder (folder ++ [name]) entry (by simp) found

/-- Where every listed entry stands in a folder, and no link is listed, a tree is level. -/
theorem IsLevel.of_entries {tree : FileTree}
    (folders : ∀ listed ∈ tree.entries, tree.entry? listed.1.dropLast = some .folder)
    (noLinks : ∀ listed ∈ tree.entries, ∀ target, listed.2 ≠ .link target) : tree.IsLevel where
  inFolder := fun _ _ inner found => folders _ (listed inner found)
  links := fun place target found => by
    by_cases top : place = []
    · rw [top] at found
      cases found
    · exact absurd rfl (noLinks _ (listed top found) target)

/-- From where nothing is no step leads on. -/
theorem Leads.of_missing {tree : FileTree} {followLast : Bool} {links : Nat}
    {current : Location} {steps : List Text} {goal : Destination}
    (leads : tree.Leads followLast links current steps goal)
    (missing : tree.entry? current = none) : goal = .present current := by
  cases leads with
  | stop => rfl
  -- Every other step is taken from a folder.
  | here folder | up folder | free folder | link folder | through folder | into folder =>
    rw [missing] at folder
    cases folder

/-- A tree grew from another: folders were added, and files were written where nothing was. -/
structure Extends (start tree : FileTree) : Prop where
  growth : ∃ written, (∀ place ∈ written, start.entry? place = none) ∧ Grows [] written start tree

namespace Extends

variable {start tree after : FileTree}

/-- A tree has grown from itself. -/
theorem refl (tree : FileTree) : tree.Extends tree :=
  ⟨[], by simp, .refl _ _ _⟩

/-- A tree that grew grows on, if it is written only where nothing was. -/
theorem trans {written : List Location} (grown : start.Extends tree)
    (fresh : ∀ place ∈ written, start.entry? place = none) (grows : Grows [] written tree after) :
    start.Extends after := by
  obtain ⟨earlier, free, first⟩ := grown
  -- What was written in both parts was written where nothing was at the start.
  refine ⟨earlier ++ written, fun place member => ?_, first.trans grows⟩
  rcases List.mem_append.mp member with before | now
  · exact free place before
  · exact fresh place now

/-- What was there is there still, and as it was. -/
theorem kept {place : Location} {entry : Entry} (grown : start.Extends tree)
    (found : start.entry? place = some entry) : tree.entry? place = some entry := by
  obtain ⟨written, fresh, grows⟩ := grown
  refine grows.unwritten (fun member => ?_) found
  rw [fresh place member] at found
  cases found

/-- What is not there was not there before. -/
theorem absent {place : Location} (grown : start.Extends tree)
    (missing : tree.entry? place = none) : start.entry? place = none := by
  cases found : start.entry? place with
  | none => rfl
  | some entry =>
    rw [grown.kept found] at missing
    cases missing

/-- Paths without a root start where they did. -/
theorem home (grown : start.Extends tree) : tree.home = start.home := by
  obtain ⟨_, _, grows⟩ := grown
  exact grows.home

/-- New entries are folders and files. -/
theorem added {place : Location} {entry : Entry} (grown : start.Extends tree)
    (found : tree.entry? place = some entry) (missing : start.entry? place = none) :
    entry = .folder ∨ ∃ content executable, entry = .file content executable := by
  obtain ⟨_, _, grows⟩ := grown
  refine (grows.of_added found).resolve_left fun there => ?_
  rw [missing] at there
  cases there

/-- Where steps that do not climb lead now nothing was before, or they led there already. -/
theorem leads (grown : start.Extends tree) (level : start.IsLevel) {links : Nat}
    {current : Location} {steps : List Text} {goal : Destination}
    (leads : tree.Leads true links current steps goal) (noClimb : "..".toList ∉ steps) :
    start.entry? goal.place = none ∨ start.Leads true links current steps goal := by
  -- What stands on the way now was there before, or nothing was there; in that case no step led on.
  induction leads with
  | stop => exact .inr .stop
  | @here links current rest goal folder _ ih =>
    rcases ih fun member => noClimb (.tail _ member) with fresh | led
    · exact .inl fresh
    cases found : start.entry? current with
    | none =>
      rw [led.of_missing found]
      exact .inl found
    | some entry =>
      have same := grown.kept found
      rw [folder, Option.some.injEq] at same
      subst same
      exact .inr (.here found led)
  | up => exact absurd (List.mem_cons_self ..) noClimb
  -- What is missing now was missing before.
  | free _ _ _ missing => exact .inl (grown.absent missing)
  | link _ _ _ _ stays => cases stays
  | @through links current step target rest goal _ name fits found goesOn _ ih =>
    cases earlier : start.entry? (current ++ [step]) with
    | none =>
      -- A link is nothing that was added.
      rcases grown.added found earlier with folder | ⟨_, _, file⟩
      · cases folder
      · cases file
    | some entry =>
      have same := grown.kept earlier
      rw [found, Option.some.injEq] at same
      subst same
      -- The steps of an old link's target do not climb either.
      have onward : "..".toList ∉ FileTree.steps target ++ rest := by
        intro member
        rcases List.mem_append.mp member with inTarget | inRest
        · exact level.links _ _ earlier inTarget
        · exact noClimb (.tail _ inRest)
      exact (ih onward).imp_right (.through (level.folder earlier) name fits earlier goesOn)
  | @into links current step rest goal entry _ name fits found noLink _ ih =>
    rcases ih fun member => noClimb (.tail _ member) with fresh | led
    · exact .inl fresh
    cases earlier : start.entry? (current ++ [step]) with
    | none =>
      rw [led.of_missing earlier]
      exact .inl earlier
    | some old =>
      have same := grown.kept earlier
      rw [found, Option.some.injEq] at same
      subst same
      exact .inr (.into (level.folder earlier) name fits earlier noLink led)

end Extends

/-- A path leads to an entry if it leads to a place that has one. -/
theorem has_eq_true_iff {tree : FileTree} {path : Text} : tree.has path = true ↔
    ∃ place entry, tree.locate true path = .ok (.present place) ∧
      tree.entry? place = some entry := by
  unfold has find
  cases located : tree.locate true path with
  | error fault => simp [Bind.bind, Except.bind, Except.toOption]
  | ok goal =>
    cases goal with
    | absent place => simp [Bind.bind, Except.bind, Except.toOption, arrive]
    | present place =>
      cases found : tree.entry? place <;>
        simp [Bind.bind, Except.bind, Except.toOption, arrive, found]

/-- A path that found something finds it in every tree that grew since. -/
theorem Extends.has {start tree : FileTree} {path : Text} (grown : start.Extends tree)
    (there : start.has path = true) : tree.has path = true := by
  obtain ⟨place, entry, located, found⟩ := has_eq_true_iff.mp there
  obtain ⟨_, _, grows⟩ := grown.growth
  exact has_eq_true_iff.mpr ⟨place, entry, grows.locate located, grown.kept found⟩

/-- Where a path that does not climb and found nothing leads now, nothing was before. -/
theorem Extends.fresh_of_locate {start tree : FileTree} {path : Text} {goal : Destination}
    (grown : start.Extends tree) (level : start.IsLevel) (noClimb : "..".toList ∉ steps path)
    (nothing : start.has path = false) (located : tree.locate true path = .ok goal) :
    start.entry? goal.place = none := by
  obtain ⟨usable, leads⟩ := locate_eq_ok_iff.mp located
  have starts : tree.origin path = start.origin path := by rw [origin, origin, grown.home]
  rcases grown.leads level leads noClimb with fresh | led
  · exact fresh
  rw [starts] at led
  cases goal with
  | absent place => exact led.of_absent.2
  | present place =>
    -- Otherwise the path would have found what was there.
    cases found : start.entry? place with
    | none => exact found
    | some entry =>
      have there : start.has path = true :=
        has_eq_true_iff.mpr ⟨place, entry, locate_eq_ok_iff.mpr ⟨usable, led⟩, found⟩
      rw [nothing] at there
      cases there

/-- A file is opened where its path leads. -/
theorem place_of_openFile {tree opened : FileTree} {path : Text} {append : Bool} {handle : Handle}
    (opens : tree.openFile path append = .ok (handle, opened)) :
    ∃ goal, tree.locate true path = .ok goal ∧ handle.location = goal.place := by
  unfold openFile at opens
  cases located : tree.locate true path with
  | error fault => simp [located, Bind.bind, Except.bind] at opens
  | ok goal =>
    refine ⟨goal, rfl, ?_⟩
    cases goal with
    | absent place =>
      simp only [located, Bind.bind, Except.bind, pure, Except.pure, Except.ok.injEq,
        Prod.mk.injEq] at opens
      rw [← opens.1]
      rfl
    | present place =>
      simp only [located, Bind.bind, Except.bind, pure, Except.pure] at opens
      split at opens
      · simp only [Except.ok.injEq, Prod.mk.injEq] at opens
        rw [← opens.1]
        rfl
      · simp only [Except.ok.injEq, Prod.mk.injEq] at opens
        rw [← opens.1]
        rfl
      · cases opens

/-- A file whose path does not climb and found nothing is opened anew where nothing was. -/
theorem Extends.openFile {start tree opened : FileTree} {path : Text} {handle : Handle}
    (grown : start.Extends tree) (level : start.IsLevel) (noClimb : "..".toList ∉ steps path)
    (nothing : start.has path = false) (opens : tree.openFile path false = .ok (handle, opened)) :
    start.entry? handle.location = none ∧ handle = ⟨handle.location, 0, false⟩ ∧
      WritesFile [] handle.location path [] tree opened ∧ start.Extends opened := by
  obtain ⟨goal, located, place⟩ := place_of_openFile opens
  have fresh : start.entry? handle.location = none := by
    rw [place]
    exact grown.fresh_of_locate level noClimb nothing located
  -- Nothing is asked of the place of the file: every place is below the root.
  obtain ⟨anew, writes⟩ := writesFile_of_openFile opens rfl fun _ => isInside_root
  exact ⟨fresh, anew, writes, grown.trans (by simpa using fresh) writes.grows⟩

/-- What was written to a new file is read from it. -/
theorem WritesFile.read {start before after : FileTree} {place : Location} {path : Text}
    {content : Bytes} (writes : WritesFile [] place path content before after)
    (grown : start.Extends after) (fresh : start.entry? place = none) :
    after.read path = .ok content := by
  have holds : ∃ executable, after.entry? place = some (.file content executable) := by
    refine writes.content.resolve_left fun lost => ?_
    -- What loses content is nothing that was added.
    rcases grown.added lost fresh with folder | ⟨_, _, file⟩
    · cases folder
    · cases file
  obtain ⟨executable, holds⟩ := holds
  simp [FileTree.read, find, writes.leads, arrive, holds, Bind.bind, Except.bind, pure, Except.pure]

end FileTree
end IdlScout
