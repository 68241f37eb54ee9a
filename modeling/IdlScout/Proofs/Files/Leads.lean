import IdlScout.Files.Tree

/-! How paths lead through a tree step by step, and where they cannot lead. -/

namespace IdlScout

/-- A place is strictly below a folder. -/
structure IsBelow (root place : Location) : Prop where
  inside : root <+: place
  other : place ≠ root

instance (root place : Location) : Decidable (IsBelow root place) :=
  decidable_of_iff (root <+: place ∧ place ≠ root)
    ⟨fun ⟨inside, other⟩ => ⟨inside, other⟩, fun ⟨inside, other⟩ => ⟨inside, other⟩⟩

/-- A name inside a folder makes a place below it. -/
theorem IsBelow.concat {root place : Location} (inside : root <+: place) (name : Text) :
    IsBelow root (place ++ [name]) := by
  refine ⟨inside.trans (List.prefix_append _ _), fun same => ?_⟩
  -- The place has one name more than the folder at least.
  have longer := inside.length_le
  have lengths := congrArg List.length same
  simp only [List.length_append, List.length_singleton] at lengths
  omega

/-- The root of a tree is below no folder. -/
theorem IsBelow.inner {root place : Location} (below : IsBelow root place) : place ≠ [] := by
  rintro rfl
  exact below.other (List.prefix_nil.mp below.inside).symm

/-- The place of a destination, free or not. -/
def Destination.place : Destination → Location
  | .present place => place
  | .absent place => place

/-- A destination in a folder: the folder itself may be there already, a free name is below it. -/
def Destination.IsInside (root : Location) : Destination → Prop
  | .present place => root <+: place
  | .absent place => IsBelow root place

/-- A step that names an entry, and neither the folder itself nor the one above. -/
structure IsName (step : Text) : Prop where
  notHere : step ≠ ['.']
  notUp : step ≠ "..".toList

/-- Whether steps never climb above the folder that is some levels above their start. -/
def staysInside : Nat → List Text → Bool
  | _, [] => true
  | depth, step :: rest =>
    if step = ['.'] then staysInside depth rest
    else if step = "..".toList then decide (0 < depth) && staysInside (depth - 1) rest
    else staysInside (depth + 1) rest

/-- The first of some steps stay inside like all of them. -/
theorem staysInside_of_first {depth : Nat} {steps all : List Text} (first : steps <+: all)
    (stays : staysInside depth all = true) : staysInside depth steps = true := by
  -- By induction on the steps; each of the three kinds leaves its own depth for the rest.
  induction steps generalizing depth all with
  | nil => rfl
  | cons step rest ih =>
    obtain ⟨more, rfl⟩ := first
    rw [List.cons_append, staysInside] at stays
    rw [staysInside]
    by_cases isHere : step = ['.']
    · rw [if_pos isHere] at stays ⊢
      exact ih (List.prefix_append _ _) stays
    rw [if_neg isHere] at stays ⊢
    by_cases isUp : step = "..".toList
    · rw [if_pos isUp, Bool.and_eq_true] at stays ⊢
      exact ⟨stays.1, ih (List.prefix_append _ _) stays.2⟩
    · rw [if_neg isUp] at stays ⊢
      exact ih (List.prefix_append _ _) stays

/-- Names lead nowhere but further inside. -/
theorem staysInside_of_names {steps : List Text} (names : ∀ step ∈ steps, IsName step)
    (depth : Nat) : staysInside depth steps = true := by
  induction steps generalizing depth with
  | nil => rfl
  | cons step rest ih =>
    have name := names step (by simp)
    rw [staysInside, if_neg name.notHere, if_neg name.notUp]
    exact ih (fun step member => names step (by simp [member])) _

namespace FileTree

/-- An entry that takes the place of all older ones is found at its place, and others as before. -/
theorem lookup_replaced (entries : List (Location × Entry)) (place : Location) (entry : Entry)
    (other : Location) :
    (entries.filter (·.1 != place) ++ [(place, entry)]).lookup other =
      if other = place then some entry else entries.lookup other := by
  -- An older entry of the place is filtered out, and every other one is found before the new one.
  induction entries with
  | nil =>
    by_cases same : other = place
    · subst same; simp
    · have differs : (other == place) = false := by simpa using same
      simp [List.lookup_cons, same, differs]
  | cons first rest ih =>
    obtain ⟨key, value⟩ := first
    by_cases replaced : key = place
    · subst replaced
      simp only [bne_self_eq_false, Bool.false_eq_true, not_false_eq_true, List.filter_cons_of_neg]
      rw [ih]
      by_cases same : other = key
      · simp [same]
      · have differs : (other == key) = false := by simpa using same
        simp [List.lookup_cons, same, differs]
    · have kept : (key != place) = true := by simpa using replaced
      simp only [kept, List.filter_cons_of_pos, List.cons_append, List.lookup_cons, ih]
      by_cases same : other = key
      · subst same; simp [replaced]
      · have differs : (other == key) = false := by simpa using same
        simp [differs]

/-- All entries but the root are listed. -/
theorem entry?_of_ne_nil (tree : FileTree) {place : Location} (inner : place ≠ []) :
    tree.entry? place = tree.entries.lookup place :=
  if_neg (by simpa using inner)

/-- What a tree holds at a place after an entry was put there. -/
theorem entry_put (tree : FileTree) {place : Location} (inner : place ≠ []) (entry : Entry)
    (other : Location) :
    entry? (tree.put place entry) other =
      if other = place then some entry else tree.entry? other := by
  by_cases top : other = []
  · -- The root is no entry, and nothing is put there.
    rw [top, if_neg (Ne.symm inner)]
    rfl
  · rw [entry?_of_ne_nil _ top, entry?_of_ne_nil _ top]
    exact lookup_replaced tree.entries place entry other

/-- No link stands below a folder. -/
def Unlinked (tree : FileTree) (root : Location) : Prop :=
  ∀ place target, IsBelow root place → tree.entry? place ≠ some (.link target)

/-- What stands at a place is listed, unless it is the root. -/
theorem listed {tree : FileTree} {place : Location} {entry : Entry} (inner : place ≠ [])
    -- The root is a folder without an entry; all else is looked up.
    (found : tree.entry? place = some entry) : (place, entry) ∈ tree.entries := by
  rw [entry?_of_ne_nil tree inner] at found
  obtain ⟨before, after, split, -⟩ := List.lookup_eq_some_iff.mp found
  rw [split]
  simp

/-- Where no link is listed at all, none stands below a folder. -/
theorem Unlinked.of_entries {tree : FileTree} {root : Location}
    (none : ∀ listed ∈ tree.entries, ∀ target, listed.2 ≠ .link target) : tree.Unlinked root := by
  intro place target below found
  exact none _ (listed below.inner found) target rfl

/-- No name in a folder without links is a link. -/
theorem Unlinked.name_ne_link {tree : FileTree} {root : Location} (unlinked : tree.Unlinked root)
    (within : Location) (step target : Text) :
    tree.entry? (root ++ within ++ [step]) ≠ some (.link target) :=
  unlinked _ _ (.concat (List.prefix_append _ _) step)

/-- How steps lead from a place to a destination, through a limited number of links. -/
inductive Leads (tree : FileTree) (followLast : Bool) :
    Nat → Location → List Text → Destination → Prop where
  /-- No step is left. -/
  | stop {links : Nat} {current : Location} :
    Leads tree followLast links current [] (.present current)
  /-- A step to the folder itself. -/
  | here {links : Nat} {current : Location} {rest : List Text} {goal : Destination}
      (folder : tree.entry? current = some .folder)
      (leads : Leads tree followLast links current rest goal) :
    Leads tree followLast links current (['.'] :: rest) goal
  /-- A step to the folder above. -/
  | up {links : Nat} {current : Location} {rest : List Text} {goal : Destination}
      (folder : tree.entry? current = some .folder)
      (leads : Leads tree followLast links current.dropLast rest goal) :
    Leads tree followLast links current ("..".toList :: rest) goal
  /-- The last name is free. -/
  | free {links : Nat} {current : Location} {step : Text}
      (folder : tree.entry? current = some .folder) (name : IsName step)
      (fits : Utf8.size step ≤ nameLimit) (absent : tree.entry? (current ++ [step]) = none) :
    Leads tree followLast links current [step] (.absent (current ++ [step]))
  /-- The last name is a link that is not followed. -/
  | link {links : Nat} {current : Location} {step target : Text}
      (folder : tree.entry? current = some .folder) (name : IsName step)
      (fits : Utf8.size step ≤ nameLimit)
      (found : tree.entry? (current ++ [step]) = some (.link target))
      (stays : followLast = false) :
    Leads tree followLast links current [step] (.present (current ++ [step]))
  /-- A link is followed. -/
  | through {links : Nat} {current : Location} {step target : Text} {rest : List Text}
      {goal : Destination} (folder : tree.entry? current = some .folder) (name : IsName step)
      (fits : Utf8.size step ≤ nameLimit)
      (found : tree.entry? (current ++ [step]) = some (.link target))
      (goesOn : rest = [] → followLast = true)
      (leads : Leads tree followLast links (if Path.isAbsolute target then [] else current)
        (steps target ++ rest) goal) :
    Leads tree followLast (links + 1) current (step :: rest) goal
  /-- A step to an entry that is no link. -/
  | into {links : Nat} {current : Location} {step : Text} {rest : List Text} {goal : Destination}
      {entry : Entry} (folder : tree.entry? current = some .folder) (name : IsName step)
      (fits : Utf8.size step ≤ nameLimit) (found : tree.entry? (current ++ [step]) = some entry)
      (noLink : ∀ target, entry ≠ .link target)
      (leads : Leads tree followLast links (current ++ [step]) rest goal) :
    Leads tree followLast links current (step :: rest) goal

/-- From a folder, a step that names an entry goes by what stands there. -/
theorem advance_name {tree : FileTree} {current : Location} {step : Text}
    (folder : tree.entry? current = some .folder) (name : IsName step)
    (fits : Utf8.size step ≤ nameLimit) (followLast : Bool)
    (through : Location → List Text → Except PathFault Destination) (rest : List Text) :
    tree.advance followLast through current (step :: rest) =
      match tree.entry? (current ++ [step]) with
      | none => if rest.isEmpty then .ok (.absent (current ++ [step])) else .error .missing
      | some (.link target) =>
        if rest.isEmpty && !followLast then .ok (.present (current ++ [step]))
        else through (if Path.isAbsolute target then [] else current) (steps target ++ rest)
      | some _ => tree.advance followLast through (current ++ [step]) rest := by
  -- The tests of the step are decided by what is assumed, so only the entry is left open.
  have stands : ¬ tree.entry? current ≠ some .folder := not_not_intro folder
  cases found : tree.entry? (current ++ [step]) with
  | none =>
    simp only [advance, stands, name.notHere, name.notUp, Nat.not_lt.mpr fits, if_false, found]
  | some entry =>
    cases entry <;>
      simp only [advance, stands, name.notHere, name.notUp, Nat.not_lt.mpr fits, if_false, found]

/-- Steps up to the first link lead on, when what is given leads on through that. -/
theorem leads_of_advance {tree : FileTree} {followLast : Bool} {links : Nat}
    {through : Location → List Text → Except PathFault Destination}
    (leads : ∀ place more goal, through place more = .ok goal →
      ∃ fewer, links = fewer + 1 ∧ tree.Leads followLast fewer place more goal)
    {current : Location} {steps : List Text} {goal : Destination}
    (advanced : tree.advance followLast through current steps = .ok goal) :
    tree.Leads followLast links current steps goal := by
  -- By induction on the steps, and at each along the tests that the walk makes.
  induction steps generalizing current with
  | nil =>
    obtain rfl : Destination.present current = goal := by simpa [advance] using advanced
    exact .stop
  | cons step rest ih =>
    rw [advance] at advanced
    split at advanced
    · cases advanced
    rename_i folder
    replace folder : tree.entry? current = some .folder := by simpa using folder
    split at advanced
    · rename_i isHere
      subst isHere
      exact .here folder (ih advanced)
    rename_i notHere
    split at advanced
    · rename_i isUp
      subst isUp
      exact .up folder (ih advanced)
    rename_i notUp
    split at advanced
    · cases advanced
    rename_i fits
    replace fits := Nat.le_of_not_lt fits
    -- The step is a name, and what stands there decides.
    cases found : tree.entry? (current ++ [step]) with
    | none =>
      simp only [found] at advanced
      cases rest with
      | nil =>
        obtain rfl : Destination.absent (current ++ [step]) = goal := by simpa using advanced
        exact .free folder ⟨notHere, notUp⟩ fits found
      | cons next more => simp at advanced
    | some entry =>
      cases entry with
      | link target =>
        simp only [found] at advanced
        by_cases stays : (rest.isEmpty && !followLast) = true
        · obtain rfl : Destination.present (current ++ [step]) = goal := by
            simpa [stays] using advanced
          obtain ⟨rfl, last⟩ : rest = [] ∧ followLast = false := by simpa using stays
          exact .link folder ⟨notHere, notUp⟩ fits found last
        · -- Only a link ends this walk early; what follows it is the other walk's.
          rw [if_neg stays] at advanced
          obtain ⟨fewer, rfl, onward⟩ := leads _ _ _ advanced
          refine .through folder ⟨notHere, notUp⟩ fits found (fun last => ?_) onward
          simpa [last] using stays
      | folder | file content executable | void =>
        simp only [found] at advanced
        exact .into folder ⟨notHere, notUp⟩ fits found (fun target => by simp) (ih advanced)

/-- What steps find is where they lead. -/
theorem leads_of_follow {tree : FileTree} {followLast : Bool} {links : Nat} {current : Location}
    {steps : List Text} {goal : Destination}
    (followed : tree.follow followLast links current steps = .ok goal) :
    tree.Leads followLast links current steps goal := by
  induction links generalizing current steps goal with
  | zero => exact leads_of_advance (fun _ _ _ none => by cases none) followed
  | succ links ih => exact leads_of_advance (fun _ _ _ onward => ⟨links, rfl, ih onward⟩) followed

namespace Leads

variable {tree : FileTree} {followLast : Bool} {links : Nat} {current : Location}
  {steps : List Text} {goal : Destination}

/-- Where steps lead is what they find. -/
theorem follow (leads : tree.Leads followLast links current steps goal) :
    tree.follow followLast links current steps = .ok goal := by
  -- Each way of going on is one branch of the walk, with or without links left to follow.
  induction leads with
  | @stop links => cases links <;> rfl
  | @here links current rest goal folder leads ih =>
    cases links <;> simpa [FileTree.follow, advance, folder] using ih
  | @up links current rest goal folder leads ih =>
    cases links <;> simpa [FileTree.follow, advance, folder] using ih
  | @free links current step folder name fits absent =>
    cases links <;> simp [FileTree.follow, advance_name folder name fits, absent]
  | @link links current step target folder name fits found stays =>
    cases links <;> simp [FileTree.follow, advance_name folder name fits, found, stays]
  | @through links current step target rest goal folder name fits found goesOn leads ih =>
    have passes : (rest.isEmpty && !followLast) = false := by
      cases rest with
      | nil => simp [goesOn rfl]
      | cons => rfl
    simpa [FileTree.follow, advance_name folder name fits, found, passes] using ih
  | @into links current step rest goal entry folder name fits found noLink leads ih =>
    cases entry with
    | link target => exact absurd rfl (noLink target)
    | folder | file content executable | void =>
      cases links <;> simpa [FileTree.follow, advance_name folder name fits, found] using ih

/-- Steps lead to one destination only. -/
theorem unique (leads : tree.Leads followLast links current steps goal) {other : Destination}
    (others : tree.Leads followLast links current steps other) : goal = other :=
  Except.ok.inj (leads.follow.symm.trans others.follow)

/-- A point alone leads nowhere else. -/
theorem of_point (leads : tree.Leads followLast links current [['.']] goal) :
    -- A point names no entry, so the step can only stay.
    goal = .present current := by
  cases leads with
  | here folder stop =>
    cases stop
    rfl
  | free folder name => exact absurd rfl name.notHere
  | link folder name => exact absurd rfl name.notHere
  | through folder name => exact absurd rfl name.notHere
  | into folder name => exact absurd rfl name.notHere

/-- The way by some steps and more passes where the first ones lead. -/
theorem split {more : List Text} (nonempty : more ≠ [])
    (leads : tree.Leads followLast links current (steps ++ more) goal) :
    ∃ place left, tree.Leads true links current steps (.present place) ∧
      tree.Leads followLast left place more goal := by
  -- The induction is on the whole way: it either starts where the first steps end, or takes one of
  -- them.
  generalize all : steps ++ more = both at leads
  induction leads generalizing steps with
  | stop => exact absurd (List.append_eq_nil_iff.mp all).2 nonempty
  | here folder leads ih =>
    rcases List.append_eq_cons_iff.mp all with ⟨rfl, rfl⟩ | ⟨first, rfl, same⟩
    · exact ⟨_, _, .stop, .here folder leads⟩
    · obtain ⟨place, left, before, after⟩ := ih same.symm
      exact ⟨place, left, .here folder before, after⟩
  | up folder leads ih =>
    rcases List.append_eq_cons_iff.mp all with ⟨rfl, rfl⟩ | ⟨first, rfl, same⟩
    · exact ⟨_, _, .stop, .up folder leads⟩
    · obtain ⟨place, left, before, after⟩ := ih same.symm
      exact ⟨place, left, .up folder before, after⟩
  | free folder name fits absent =>
    rcases List.append_eq_cons_iff.mp all with ⟨rfl, rfl⟩ | ⟨first, rfl, same⟩
    · exact ⟨_, links, .stop, .free folder name fits absent⟩
    · exact absurd (List.append_eq_nil_iff.mp same.symm).2 nonempty
  | link folder name fits found stays =>
    rcases List.append_eq_cons_iff.mp all with ⟨rfl, rfl⟩ | ⟨first, rfl, same⟩
    · exact ⟨_, links, .stop, .link folder name fits found stays⟩
    · exact absurd (List.append_eq_nil_iff.mp same.symm).2 nonempty
  | through folder name fits found goesOn leads ih =>
    rcases List.append_eq_cons_iff.mp all with ⟨rfl, rfl⟩ | ⟨first, rfl, rfl⟩
    · exact ⟨_, _, .stop, .through folder name fits found goesOn leads⟩
    · -- What follows the link is not empty, so it was followed whatever the flag says.
      obtain ⟨place, left, before, after⟩ := ih (List.append_assoc ..)
      exact ⟨place, left, .through folder name fits found (fun _ => rfl) before, after⟩
  | into folder name fits found noLink leads ih =>
    rcases List.append_eq_cons_iff.mp all with ⟨rfl, rfl⟩ | ⟨first, rfl, same⟩
    · exact ⟨_, _, .stop, .into folder name fits found noLink leads⟩
    · obtain ⟨place, left, before, after⟩ := ih same.symm
      exact ⟨place, left, .into folder name fits found noLink before, after⟩

/-- The way to a free name follows all its links anyway. -/
theorem followed {place : Location}
    (leads : tree.Leads followLast links current steps (.absent place)) :
    tree.Leads true links current steps (.absent place) := by
  -- The way ends at a free name, so no link is its last step.
  generalize free : Destination.absent place = goal at leads
  induction leads with
  | stop => cases free
  | here folder leads ih => exact .here folder (ih free)
  | up folder leads ih => exact .up folder (ih free)
  | free folder name fits absent => exact .free folder name fits absent
  | link => cases free
  | through folder name fits found goesOn leads ih =>
    exact .through folder name fits found (fun _ => rfl) (ih free)
  | into folder name fits found noLink leads ih =>
    exact .into folder name fits found noLink (ih free)

/-- In the folder that steps lead to one more step can stay. -/
theorem concat_here {place : Location}
    (leads : tree.Leads true links current steps (.present place))
    (folder : tree.entry? place = some .folder) :
    tree.Leads true links current (steps ++ [['.']]) (.present place) := by
  -- The ways that end elsewhere, or at a link that is kept, are excluded.
  generalize ends : Destination.present place = goal at leads
  induction leads with
  | stop =>
    cases ends
    exact .here folder .stop
  | here above leads ih => exact .here above (ih ends)
  | up above leads ih => exact .up above (ih ends)
  | free => cases ends
  | link _ _ _ _ stays => cases stays
  | through above name fits found goesOn leads ih =>
    have onward := ih ends
    rw [List.append_assoc] at onward
    exact .through above name fits found (fun _ => rfl) onward
  | into above name fits found noLink leads ih => exact .into above name fits found noLink (ih ends)

/-- Where no link stands below a folder, steps that stay inside lead inside. -/
theorem isInside {root within : Location} (unlinked : tree.Unlinked root)
    (leads : tree.Leads followLast links (root ++ within) steps goal)
    (stays : staysInside within.length steps = true) : goal.IsInside root := by
  generalize start : root ++ within = current at leads
  -- Every place on the way is inside, at the depth that the steps so far give.
  induction leads generalizing within with
  | stop => exact ⟨within, start⟩
  | here folder leads ih => exact ih (by simpa [staysInside] using stays) start
  | up folder leads ih =>
    -- The depth tells that there is a folder above that is still inside.
    obtain ⟨deep, stays⟩ : within ≠ [] ∧ staysInside (within.length - 1) _ = true := by
      simpa [staysInside, List.length_pos_iff] using stays
    have above := congrArg List.dropLast start
    rw [List.dropLast_append_of_ne_nil deep] at above
    exact ih (by simpa using stays) above
  | free folder name fits absent =>
    subst start
    exact .concat (List.prefix_append _ _) _
  | link folder name fits found =>
    subst start
    exact absurd found (unlinked.name_ne_link _ _ _)
  | through folder name fits found =>
    subst start
    exact absurd found (unlinked.name_ne_link _ _ _)
  | into folder name fits found noLink leads ih =>
    rename_i current step rest goal entry
    rw [staysInside, if_neg name.notHere, if_neg name.notUp] at stays
    have deeper : root ++ (within ++ [step]) = current ++ [step] := by
      rw [← start, List.append_assoc]
    exact ih (by simpa using stays) deeper

/-- Where no link stands below a folder, names lead to the place that they spell. -/
theorem place_of_names {root within : Location} (unlinked : tree.Unlinked root)
    (leads : tree.Leads followLast links (root ++ within) steps goal)
    (names : ∀ step ∈ steps, IsName step) : goal.place = root ++ within ++ steps := by
  generalize start : root ++ within = current at leads
  -- What was passed so far is spelled by the place where the rest of the steps start.
  -- Only names that are entered are left, since no link stands below the folder.
  induction leads generalizing within with
  | stop => simp [Destination.place]
  | here => exact absurd rfl (names ['.'] (by simp)).notHere
  | up => exact absurd rfl (names "..".toList (by simp)).notUp
  | free => rfl
  | link folder name fits found =>
    subst start
    exact absurd found (unlinked.name_ne_link _ _ _)
  | through folder name fits found =>
    subst start
    exact absurd found (unlinked.name_ne_link _ _ _)
  | into folder name fits found noLink leads ih =>
    rename_i current step rest goal entry
    have deeper : root ++ (within ++ [step]) = current ++ [step] := by
      rw [← start, List.append_assoc]
    rw [ih (fun step member => names step (by simp [member])) deeper, List.append_assoc,
      List.singleton_append]

/-- A free name is inside a folder. -/
theorem of_absent {place : Location}
    (leads : tree.Leads followLast links current steps (.absent place)) :
    place ≠ [] ∧ tree.entry? place = none := by
  -- Of all ways only the step to a free name ends at one.
  generalize free : Destination.absent place = goal at leads
  induction leads with
  | stop => cases free
  | here _ _ ih => exact ih free
  | up _ _ ih => exact ih free
  | free _ _ _ absent =>
    cases free
    exact ⟨by simp, absent⟩
  | link => cases free
  | through _ _ _ _ _ _ ih => exact ih free
  | into _ _ _ _ _ _ ih => exact ih free

/-- The way to a free name leads to what is put there. -/
theorem put {place : Location} {entry : Entry} (noLink : ∀ target, entry ≠ .link target)
    (leads : tree.Leads followLast links current steps (.absent place)) :
    (tree.put place entry).Leads true links current steps (.present place) := by
  obtain ⟨inner, absent⟩ := leads.of_absent
  -- What stands on the way was there before, so it is at another place.
  have kept {other : Location} {old : Entry} (found : tree.entry? other = some old) :
      entry? (tree.put place entry) other = some old := by
    have differs : other ≠ place := fun same => by simp [same, absent] at found
    rw [entry_put tree inner, if_neg differs, found]
  -- The step to the free name is the last; it enters what was put there, and it is no link.
  generalize free : Destination.absent place = goal at leads
  induction leads with
  | stop => cases free
  | here folder leads ih => exact .here (kept folder) (ih free)
  | up folder leads ih => exact .up (kept folder) (ih free)
  | free folder name fits _ =>
    cases free
    exact .into (kept folder) name fits (by rw [entry_put tree inner, if_pos rfl]) noLink .stop
  | link => cases free
  | through folder name fits found goesOn leads ih =>
    exact .through (kept folder) name fits (kept found) (fun _ => rfl) (ih free)
  | into folder name fits found noLink leads ih =>
    exact .into (kept folder) name fits (kept found) noLink (ih free)

end Leads
end FileTree
end IdlScout
