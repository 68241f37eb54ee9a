import IdlScout.Proofs.Files.Extension
import Mathlib.Data.List.Flatten

/-! Paths that are the same though they are spelled otherwise: the plain spelling of a place finds
whatever another spelling of it finds. -/

namespace IdlScout
namespace Path

/-- The names in a path without the points among them, which lead nowhere. -/
def way (path : Text) : List Text :=
  (names path).filter fun name => name ≠ ['.']

/-- The name that a component stands for on the way. -/
def Component.name? : Component → Option Text
  | .root | .here => none
  | .up => some "..".toList
  | .name text => some text

/-- A piece stands for its own name. -/
theorem Component.name?_ofPiece (piece : Text) : (ofPiece piece).name? = some piece := by
  unfold ofPiece
  -- The two dots are their own component; any other piece is a plain name.
  split
  · rename_i climbs
    rw [climbs]
    rfl
  · rfl

/-- A piece behind the start does not stand for what a path starts from. -/
theorem ofPiece_ne (piece : Text) : ofPiece piece ≠ .root ∧ ofPiece piece ≠ .here := by
  unfold ofPiece
  split <;> simp

/-- A slash ends the way before it and starts the way after it. -/
theorem way_append_slash (before after : Text) :
    way (before ++ '/' :: after) = way before ++ way after := by
  rw [way, names_append_slash, List.filter_append, way, way]

/-- The way of a path is all of its pieces but the padding. -/
theorem way_eq_filter {path : Text} {start : Start} {body : List Text}
    (split : pieces path = (start, body)) :
    way path = body.filter fun piece => !isPadding piece := by
  obtain ⟨-, allNames, -, -⟩ := of_pieces split
  -- The start of a path is no name, and all other padding is left out on both sides.
  have starts : start.names.filter (fun name => name ≠ ['.']) = [] := by
    cases start <;> decide
  have padding : (fun piece : Text => decide (piece ≠ ['.']) && !piece.isEmpty) =
      fun piece => !isPadding piece := by
    funext piece
    by_cases point : piece = ['.'] <;> simp [isPadding, point]
  rw [way, allNames, List.filter_append, starts, List.nil_append, List.filter_filter, padding]

/-- The way of a path is that of its components. -/
theorem way_eq_components (path : Text) :
    way path = (components path).filterMap Component.name? := by
  rcases split : pieces path with ⟨start, body⟩
  have starts : start.components.filterMap Component.name? = [] := by
    -- How the path starts gives no name, and every piece gives its own.
    cases start <;> rfl
  have named : Component.name? ∘ ofPiece = some := funext Component.name?_ofPiece
  simp only [way_eq_filter split, components, split, List.filterMap_append, starts,
    List.nil_append, List.filterMap_map, named, List.filterMap_some]

/-- Only a path from the root has the root among its components. -/
theorem root_mem_components_iff {path : Text} :
    Component.root ∈ components path ↔ isAbsolute path = true := by
  rcases split : pieces path with ⟨start, body⟩
  obtain ⟨-, -, absolute, -⟩ := of_pieces split
  have noRoot (piece : Text) := (ofPiece_ne piece).1
  rw [absolute]
  -- No piece is read as the root, so only the start can be.
  simp only [components, split, List.mem_append, List.mem_map, noRoot, and_false, exists_false,
    or_false]
  cases start <;> simp [Start.components]

/-- Paths that are the same start alike and have the same way. -/
theorem of_same {a b : Text} (alike : same a b = true) :
    isAbsolute a = isAbsolute b ∧ way a = way b := by
  have components : components a = components b := by simpa [same] using alike
  -- Both are read off the components.
  refine ⟨?_, by rw [way_eq_components, way_eq_components, components]⟩
  rw [Bool.eq_iff_iff, ← root_mem_components_iff, ← root_mem_components_iff, components]

/-- Every path is the same as itself. -/
theorem same_self (path : Text) : same path path = true := by
  simp [same]

/-- Being the same goes both ways. -/
theorem same_comm (a b : Text) : same a b = same b a := by
  rw [same, same, Bool.beq_comm]

/-- The way of a path below another goes on from there. -/
theorem way_join {rest : Text} (relative : isAbsolute rest = false) (base : Text) :
    way (join base rest) = way base ++ way rest := by
  rw [way, names_join relative, List.filter_append, way, way]

end Path

namespace FileTree

/-- Names that a place can be spelled with: pieces of a path that are no points. -/
structure IsSpelled (location : Location) : Prop where
  names : ∀ name ∈ location, IsName name ∧ name ≠ [] ∧ '/' ∉ name

/-- A place is spelled with a slash before every name. -/
theorem spell_eq_flatMap {location : Location} (inner : location ≠ []) :
    spell location = location.flatMap ('/' :: ·) := by
  obtain ⟨name, rest, rfl⟩ := List.exists_cons_of_ne_nil inner
  rw [spell, Text.join_eq_flatMap, List.flatMap_cons]
  rfl

/-- A path from the root has a slash before every piece. -/
theorem eq_flatMap_of_isAbsolute {path : Text} (absolute : Path.isAbsolute path = true) :
    ∃ pieces : List Text, path = pieces.flatMap ('/' :: ·) ∧
      Path.names path = pieces.filter fun piece => !piece.isEmpty := by
  cases path with
  | nil => cases absolute
  | cons c body =>
    obtain rfl : c = '/' := by simpa [Path.isAbsolute] using absolute
    -- The piece before the first slash is empty and is left out.
    refine ⟨Text.cut '/' body, ?_, by simp [Path.names, Text.cut]⟩
    have whole := spell_eq_flatMap (Text.cut_ne_nil '/' body)
    rwa [spell, Text.join_cut] at whole

namespace IsSpelled

variable {location : Location}

/-- The names of a spelled place are its own. -/
theorem names_spell (spelled : IsSpelled location) : Path.names (spell location) = location := by
  -- Names have no slashes, so cutting the spelling gives them back.
  have plain := Path.names_join_pieces fun piece member => (spelled.names piece member).2.2
  have slash := Path.names_append_slash [] (Text.join ['/'] location)
  rw [List.nil_append, plain] at slash
  rw [spell, slash]
  exact List.filter_eq_self.mpr fun name member => by simpa using (spelled.names name member).2.1

/-- The spelling of a place does not climb. -/
theorem noClimb (spelled : IsSpelled location) : "..".toList ∉ Path.names (spell location) := by
  rw [spelled.names_spell]
  exact fun member => (spelled.names _ member).1.notUp rfl

/-- The spelling of a place does not end in a slash. -/
theorem getLast?_spell (spelled : IsSpelled location) (inner : location ≠ []) :
    (spell location).getLast? ≠ some '/' := by
  obtain ⟨front, last, rfl⟩ := (List.eq_nil_or_concat location).resolve_left inner
  rw [List.concat_eq_append] at spelled inner ⊢
  obtain ⟨-, nonempty, noSlash⟩ := spelled.names last (by simp)
  -- The last character is that of the last name, which is not empty and has no slash.
  rw [spell_eq_flatMap inner, List.flatMap_append, List.getLast?_append]
  intro ends
  have slash : last.getLast? = some '/' := by
    cases last with
    | nil => exact absurd rfl nonempty
    | cons c more => simpa using ends
  exact noSlash (List.mem_of_getLast? slash)

/-- The way of a spelled place is the place. -/
theorem way_spell (spelled : IsSpelled location) : Path.way (spell location) = location := by
  rw [Path.way, spelled.names_spell]
  exact List.filter_eq_self.mpr fun name member => by
    simpa using (spelled.names name member).1.notHere

/-- The plain spelling of a place is part of every other spelling of it. -/
theorem sublist_of_same (spelled : IsSpelled location) (inner : location ≠ []) {path : Text}
    (alike : Path.same (spell location) path = true) : (spell location).Sublist path := by
  obtain ⟨starts, ways⟩ := Path.of_same alike
  rw [spelled.way_spell] at ways
  obtain ⟨pieces, whole, names⟩ := eq_flatMap_of_isAbsolute (starts.symm.trans rfl)
  -- The names of the place are some of the pieces of the path.
  have fewer : location.Sublist pieces := by
    rw [ways, Path.way, names]
    exact List.filter_sublist.trans List.filter_sublist
  rw [spell_eq_flatMap inner, whole]
  exact fewer.flatMap _

/-- If a path can be looked up, so can the plain spelling of its place. -/
theorem check_of_same (spelled : IsSpelled location) (inner : location ≠ []) {path : Text}
    (alike : Path.same (spell location) path = true) (usable : check path = .ok ()) :
    check (spell location) = .ok () := by
  -- The plain spelling has no character that the path lacks.
  have part := spelled.sublist_of_same inner alike
  have shorter : Utf8.size (spell location) ≤ Utf8.size path := (part.flatMap _).length_le
  -- A path is refused when it is empty, holds a zero character or is too long.
  unfold check at usable ⊢
  split at usable
  · cases usable
  split at usable
  · cases usable
  rename_i noNul
  split at usable
  · cases usable
  rename_i fits
  have plain : ¬ (spell location).contains (Char.ofNat 0) = true := fun found =>
    noNul (List.contains_iff_mem.mpr (part.subset (List.contains_iff_mem.mp found)))
  have nonempty : ¬ (spell location).isEmpty = true := by simp [spell]
  rw [if_neg nonempty, if_neg plain, if_neg (by omega)]

end IsSpelled

/-- Some steps without some of the points among them. -/
inductive Straighter : List Text → List Text → Prop where
  | nil : Straighter [] []
  | drop {steps fewer : List Text} (rest : Straighter steps fewer) :
    Straighter (['.'] :: steps) fewer
  | keep {steps fewer : List Text} (step : Text) (rest : Straighter steps fewer) :
    Straighter (step :: steps) (step :: fewer)

/-- Steps can be kept as they are. -/
theorem Straighter.refl (steps : List Text) : Straighter steps steps := by
  induction steps with
  | nil => exact .nil
  | cons step rest ih => exact .keep step ih

/-- Other steps may come first. -/
theorem Straighter.append_left {steps fewer : List Text} (rest : Straighter steps fewer)
    (first : List Text) : Straighter (first ++ steps) (first ++ fewer) := by
  induction first with
  | nil => exact rest
  | cons step more ih => exact .keep step ih

/-- All points can be left out. -/
theorem straighter_filter (steps : List Text) :
    Straighter steps (steps.filter fun step => step ≠ ['.']) := by
  -- By induction on the steps; a point is dropped and any other step kept.
  induction steps with
  | nil => exact .nil
  | cons step rest ih =>
    by_cases point : step = ['.']
    · subst point
      exact .drop ih
    · rw [List.filter_cons_of_pos (by simpa using point)]
      exact .keep step ih

/-- Without points on the way steps lead where they did. -/
theorem Leads.straighten {tree : FileTree} {links : Nat} {current : Location}
    {steps fewer : List Text} {goal : Destination}
    (leads : tree.Leads true links current steps goal) (straighter : Straighter steps fewer) :
    tree.Leads true links current fewer goal := by
  induction leads generalizing fewer with
  | stop =>
    cases straighter
    exact .stop
  | here folder _ ih =>
    cases straighter with
    -- A point that is left out led nowhere.
    | drop rest => exact ih rest
    | keep _ rest => exact .here folder (ih rest)
  | up folder _ ih =>
    cases straighter with
    | keep _ rest => exact .up folder (ih rest)
  | free folder name fits missing =>
    cases straighter with
    | drop => exact absurd rfl name.notHere
    | keep _ rest =>
      cases rest
      exact .free folder name fits missing
  | link _ _ _ _ stays => cases stays
  | through folder name fits found goesOn _ ih =>
    cases straighter with
    | drop => exact absurd rfl name.notHere
    | keep _ rest =>
      -- The points in the target of a link stay, since they are no part of the path.
      exact .through folder name fits found (fun _ => rfl) (ih (rest.append_left _))
  | into folder name fits found noLink _ ih =>
    cases straighter with
    | drop => exact absurd rfl name.notHere
    | keep _ rest => exact .into folder name fits found noLink (ih rest)

/-- Without points the steps of a path are its way. -/
theorem filter_steps (path : Text) :
    (steps path).filter (fun step => step ≠ ['.']) = Path.way path := by
  unfold steps
  split
  · rw [List.filter_append, Path.way, Path.names]
    simp
  · rfl

/-- What a path finds the plain spelling of its place finds too. -/
theorem IsSpelled.has_of_same {tree : FileTree} {location : Location} (spelled : IsSpelled location)
    (inner : location ≠ []) {path : Text} (alike : Path.same (spell location) path = true)
    (there : tree.has path = true) : tree.has (spell location) = true := by
  obtain ⟨place, entry, located, found⟩ := has_eq_true_iff.mp there
  obtain ⟨usable, leads⟩ := locate_eq_ok_iff.mp located
  obtain ⟨starts, ways⟩ := Path.of_same alike
  refine has_eq_true_iff.mpr ⟨place, entry, locate_eq_ok_iff.mpr
    ⟨spelled.check_of_same inner alike usable, ?_⟩, found⟩
  have straight := leads.straighten (straighter_filter _)
  rw [filter_steps, ← ways, spelled.way_spell] at straight
  -- The plain spelling does not end in a slash, so its steps are its names.
  have steps : steps (spell location) = location := by
    rw [FileTree.steps, if_neg (spelled.getLast?_spell inner)]
    exact spelled.names_spell
  rwa [steps, tree.origin_congr starts]

/-- A path joined to the spelling of a place spells the place that its pieces name from there. -/
theorem IsSpelled.join_spell {location : Location} (spelled : IsSpelled location) {rest : Text}
    (relative : Path.isAbsolute rest = false) :
    Path.join (spell location) rest = spell (location ++ Text.cut '/' rest) := by
  have pieces : '/' :: rest = (Text.cut '/' rest).flatMap ('/' :: ·) := by
    rw [← spell_eq_flatMap (Text.cut_ne_nil _ _), spell, Text.join_cut]
  unfold Path.join
  rw [if_neg (by simp [relative])]
  by_cases top : location = []
  · -- The spelling of the root is the one that ends in a slash already.
    subst top
    rw [List.nil_append, spell_eq_flatMap (Text.cut_ne_nil _ _), ← pieces]
    rfl
  · have last := spelled.getLast?_spell top
    have inner : location ++ Text.cut '/' rest ≠ [] := by simp [top]
    rw [if_neg (by simpa [spell] using last), spell_eq_flatMap inner, List.flatMap_append, ← pieces,
      ← spell_eq_flatMap top, List.append_assoc]
    rfl

end FileTree
end IdlScout
