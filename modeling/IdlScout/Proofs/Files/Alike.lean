import IdlScout.Proofs.Files.Components
import Mathlib.Logic.Relation

/-! Paths are the same exactly if their spellings differ in padding only: slashes behind slashes,
points that are not at the start, and slashes at the end. -/

namespace IdlScout
namespace Path

/-- A path, and a spelling of it with something more that leads nowhere. -/
inductive Padded : Text → Text → Prop
  | slash (before after : Text) : Padded (before ++ '/' :: after) (before ++ '/' :: '/' :: after)
  | point (before after : Text) :
    Padded (before ++ '/' :: after) (before ++ '/' :: '.' :: '/' :: after)
  | lastPoint (before : Text) : Padded (before ++ ['/']) (before ++ ['/', '.'])
  /-- Without this the empty path would be spelled like the root. -/
  | lastSlash {path : Text} (nonempty : path ≠ []) : Padded path (path ++ ['/'])

/-- Spellings that become one text when padding is put in and taken out. -/
def Alike : Text → Text → Prop :=
  Relation.EqvGen Padded

/-! ### Padding changes no component -/

/-- What follows a slash counts by its way only. -/
theorem components_append_slash_congr (before : Text) {after other : Text}
    (same : way after = way other) :
    components (before ++ '/' :: after) = components (before ++ '/' :: other) := by
  -- How a path starts is seen before the first slash.
  have starts : start (before ++ '/' :: after) = start (before ++ '/' :: other) := by
    by_cases top : before = []
    · subst top
      rfl
    · rw [start_append_slash top, start_append_slash top]
  rw [components_eq, components_eq (before ++ '/' :: other), starts, way_append_slash,
    way_append_slash, same]

/-- A path has the components of its other spelling. -/
theorem Padded.components_eq {path padded : Text} (more : Padded path padded) :
    components path = components padded := by
  cases more with
  -- Each kind of padding stands behind a slash, where it adds nothing to the way.
  | slash before after =>
    exact components_append_slash_congr before (way_append_slash [] after).symm
  | point before after =>
    exact components_append_slash_congr before (way_append_slash ['.'] after).symm
  | lastPoint before => exact components_append_slash_congr before rfl
  | lastSlash nonempty =>
    have none : way [] = [] := rfl
    rw [Path.components_eq, Path.components_eq (_ ++ _), start_append_slash nonempty,
      way_append_slash, none, List.append_nil]

/-! ### All padding can be taken out -/

namespace Alike

variable {a b c : Text}

/-- Every spelling is like itself. -/
theorem rfl {path : Text} : Alike path path :=
  Relation.EqvGen.refl path

/-- Being alike goes both ways. -/
theorem symm (alike : Alike a b) : Alike b a :=
  Relation.EqvGen.symm _ _ alike

/-- Spellings that are like a third one are alike. -/
theorem trans (first : Alike a b) (second : Alike b c) : Alike a c :=
  Relation.EqvGen.trans _ _ _ first second

/-- Padding can be taken out. -/
theorem of_padded (more : Padded a b) : Alike b a :=
  symm (Relation.EqvGen.rel _ _ more)

end Alike

/-- A spelling and pieces behind a slash; without pieces the slash is padding. -/
theorem alike_join_cons (before : Text) {piece : Text} (nonempty : before ++ piece ≠ [])
    (rest : List Text) :
    Alike (before ++ piece ++ '/' :: Text.join ['/'] rest)
      (before ++ Text.join ['/'] (piece :: rest)) := by
  by_cases last : rest = []
  · subst last
    exact .of_padded (.lastSlash nonempty)
  · have same : before ++ piece ++ '/' :: Text.join ['/'] rest =
        before ++ Text.join ['/'] (piece :: rest) := by
      rw [Text.join_cons _ _ last]
      simp
    rw [same]
    exact .rfl

/-- Behind a slash all pieces that are padding can be taken out. -/
theorem alike_behind_slash (before : Text) (body : List Text) :
    Alike (before ++ '/' :: Text.join ['/'] body)
      (before ++ '/' :: Text.join ['/'] (body.filter fun piece => !isPadding piece)) := by
  induction body generalizing before with
  | nil => exact .rfl
  | cons piece rest ih =>
    -- Padding is dropped; any other piece stays and joins what is before.
    by_cases padding : isPadding piece = true
    · rw [List.filter_cons_of_neg (by simp [padding])]
      refine .trans ?_ (ih before)
      have shape : piece = [] ∨ piece = ['.'] := by simpa [isPadding] using padding
      by_cases last : rest = []
      · -- The path ends behind the slash, with a point there or with nothing.
        subst last
        rcases shape with rfl | rfl
        · exact .rfl
        · exact .of_padded (.lastPoint before)
      · rw [Text.join_cons _ _ last]
        rcases shape with rfl | rfl
        · exact .of_padded (.slash before _)
        · exact .of_padded (.point before _)
    · -- What is kept stands before the slash that the others are behind.
      rw [List.filter_cons_of_pos (by simp [padding])]
      have nonempty : (before ++ ['/']) ++ piece ≠ [] := by simp
      have start : Alike (before ++ '/' :: Text.join ['/'] (piece :: rest))
          ((before ++ '/' :: piece) ++ '/' :: Text.join ['/'] rest) := by
        have joined := alike_join_cons (before ++ ['/']) nonempty rest
        simpa using joined.symm
      have goal := alike_join_cons (before ++ ['/']) nonempty
        (rest.filter fun piece => !isPadding piece)
      refine start.trans ((ih _).trans ?_)
      simpa using goal

/-- Behind a first piece that is not empty all padding can be taken out. -/
theorem alike_behind_first {first : Text} (nonempty : first ≠ []) (body : List Text) :
    Alike (Text.join ['/'] (first :: body))
      (Text.join ['/'] (first :: body.filter fun piece => !isPadding piece)) :=
  (alike_join_cons [] nonempty body).symm.trans
    ((alike_behind_slash first body).trans (alike_join_cons [] nonempty _))

/-- The spelling of a path without any padding. -/
def plain (path : Text) : Text :=
  ofPieces (start path) (way path)

/-- Every path is like its plain spelling. -/
theorem alike_plain (path : Text) : Alike path (plain path) := by
  rcases split : pieces path with ⟨first, body⟩
  have whole := Text.join_cut '/' path
  rw [plain, start, split, way_eq_filter split]
  unfold pieces at split
  split at split
  · -- The slash at the root has all pieces behind it.
    rename_i rest
    obtain ⟨rfl, rfl⟩ := Prod.mk.inj split
    have behind := alike_behind_slash [] (Text.cut '/' rest)
    rwa [Text.join_cut] at behind
  · rename_i notRoot
    split at split
    · -- The point is the first piece, alone or with others behind it.
      rename_i rest shape
      obtain ⟨rfl, rfl⟩ := Prod.mk.inj split
      have spelled (body : List Text) : ofPieces .here body = Text.join ['/'] (['.'] :: body) := by
        cases body <;> rfl
      rw [← whole, shape, spelled]
      exact alike_behind_first (List.cons_ne_nil _ _) rest
    · rename_i notHere
      obtain ⟨rfl, rfl⟩ := Prod.mk.inj split
      obtain ⟨piece, rest, shape⟩ := List.exists_cons_of_ne_nil (Text.cut_ne_nil '/' path)
      rw [shape] at whole
      by_cases empty : piece = []
      · -- Only the empty path starts with an empty piece and not at the root.
        subst empty
        cases rest with
        | nil =>
          obtain rfl : [] = path := whole
          exact .rfl
        | cons next more =>
          rw [Text.join_cons _ _ (List.cons_ne_nil _ _)] at whole
          exact absurd whole.symm (notRoot _)
      · have kept : isPadding piece = false := by
          have other : piece ≠ ['.'] := fun point => notHere rest (point ▸ shape)
          simp [isPadding, empty, other]
        rw [shape, List.filter_cons_of_pos (by simp [kept])]
        conv => lhs; rw [← whole]
        exact alike_behind_first empty rest

/-- Paths have the same components exactly if their spellings differ in padding only. -/
theorem alike_iff {a b : Text} : Alike a b ↔ components a = components b := by
  constructor
  · intro alike
    induction alike with
    | rel _ _ more => exact more.components_eq
    | refl _ => rfl
    | symm _ _ _ ih => exact ih.symm
    | trans _ _ _ _ _ first second => exact first.trans second
  · intro same
    -- The plain spelling is made of what the components tell.
    obtain ⟨starts, ways⟩ := components_inj_iff.mp same
    have spelling : plain a = plain b := by rw [plain, plain, starts, ways]
    exact (alike_plain a).trans (spelling ▸ (alike_plain b).symm)

instance (a b : Text) : Decidable (Alike a b) :=
  decidable_of_iff _ alike_iff.symm

end Path
end IdlScout
