import IdlScout.Proofs.Files.Respelling
import Mathlib.Tactic.MkIffOfInductiveProp

/-! The components of paths that go on below others, and of those spelled with a point in front. -/

namespace IdlScout

/-- A name that an entry of a folder can have. -/
@[mk_iff] structure IsFileName (name : Text) : Prop where
  isName : IsName name
  nonempty : name ≠ []
  noSlash : '/' ∉ name
  noNul : Char.ofNat 0 ∉ name
  fits : Utf8.size name ≤ FileTree.nameLimit

instance (step : Text) : Decidable (IsName step) :=
  decidable_of_iff (step ≠ ['.'] ∧ step ≠ "..".toList)
    ⟨fun ⟨notHere, notUp⟩ => ⟨notHere, notUp⟩, fun name => ⟨name.notHere, name.notUp⟩⟩

instance (name : Text) : Decidable (IsFileName name) :=
  decidable_of_iff _ (isFileName_iff name).symm

/-- A file name does not start at the root. -/
theorem IsFileName.relative {name : Text} (fileName : IsFileName name) :
    Path.isAbsolute name = false := by
  cases name with
  | nil => rfl
  | cons c rest =>
    have other : c ≠ '/' := fun slash => fileName.noSlash (by simp [slash])
    simpa [Path.isAbsolute] using other

namespace Path

/-- The path that some names lead to below another. -/
def below (path : Text) (names : List Text) : Text :=
  names.foldl join path

/-- What a path starts from. -/
def start (path : Text) : Start :=
  (pieces path).1

/-- The components of a path are those of what it starts from and of its way. -/
theorem components_eq (path : Text) :
    components path = (start path).components ++ (way path).map ofPiece := by
  rcases split : pieces path with ⟨first, body⟩
  simp only [components, start, split, way_eq_filter split]

/-- What a path starts from is told by its first component. -/
theorem start_eq_components (path : Text) :
    start path = match (components path).head? with
      | some .root => .root
      | some .here => .here
      | _ => .bare := by
  rw [components_eq]
  cases start path with
  | root | here => rfl
  | bare =>
    cases way path with
    | nil => rfl
    | cons piece rest =>
      -- A piece behind the start is neither the root nor the point that a path starts from.
      obtain ⟨noRoot, noPoint⟩ := ofPiece_ne piece
      cases first : ofPiece piece <;> simp_all [Start.components]

/-- Paths have the same components exactly if they start from the same and go the same way. -/
theorem components_inj_iff {a b : Text} :
    components a = components b ↔ start a = start b ∧ way a = way b := by
  constructor
  · intro alike
    -- Both are read off the components.
    rw [start_eq_components, start_eq_components, way_eq_components, way_eq_components, alike]
    exact ⟨rfl, rfl⟩
  · rintro ⟨starts, ways⟩
    rw [components_eq, components_eq b, starts, ways]

/-- A path that does not start at the root starts with a point exactly if that is its first
piece. -/
theorem start_of_relative {path : Text} (relative : isAbsolute path = false) :
    start path = if (Text.cut '/' path).head? = some ['.'] then .here else .bare := by
  -- A path from the root has a case of its own; all others are told apart by their first piece.
  unfold start pieces
  split
  · cases relative
  · split
    · rename_i body shape
      rw [shape]
      rfl
    · rename_i others
      have noPoint : (Text.cut '/' path).head? ≠ some ['.'] := by
        intro point
        obtain ⟨body, shape⟩ := List.head?_eq_some_iff.mp point
        exact others body shape
      rw [if_neg noPoint]

/-- What follows its first slash does not change what a path starts from. -/
theorem start_append_slash {before : Text} (nonempty : before ≠ []) (after : Text) :
    start (before ++ '/' :: after) = start before := by
  -- The first character and the first piece decide, and both are in what stands before the slash.
  have first : (Text.cut '/' (before ++ '/' :: after)).head? = (Text.cut '/' before).head? := by
    rw [Text.cut_append_mark, List.head?_append_of_ne_nil _ (Text.cut_ne_nil _ _)]
  obtain ⟨c, rest, rfl⟩ := List.exists_cons_of_ne_nil nonempty
  by_cases slash : c = '/'
  · subst slash
    rfl
  · have relative (more : Text) : isAbsolute (c :: more) = false := by simp [isAbsolute, slash]
    rw [List.cons_append] at first ⊢
    rw [start_of_relative (relative _), start_of_relative (relative _), first]

end Path
end IdlScout
