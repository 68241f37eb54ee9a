import IdlScout.Files.Tree
import IdlScout.Proofs.Text.Cut

/-! The names that paths are made of, and those of the paths above them and below them. -/

namespace IdlScout
namespace Path

/-- The names in a path, points among them: its pieces between slashes that are not empty. -/
def names (path : Text) : List Text :=
  (Text.cut '/' path).filter fun piece => !piece.isEmpty

/-- A slash ends the names before it and starts those after it. -/
theorem names_append_slash (before after : Text) :
    names (before ++ '/' :: after) = names before ++ names after := by
  rw [names, Text.cut_append_mark, List.filter_append, names, names]

/-- Slashes at the end of a path add no names. -/
theorem names_append_slashes (path : Text) {slashes : Text} (all : ∀ c ∈ slashes, c = '/') :
    names (path ++ slashes) = names path := by
  induction slashes generalizing path with
  | nil => rw [List.append_nil]
  | cons c rest ih =>
    obtain rfl := all c (by simp)
    -- A slash separates the names before it from those behind it, of which there are none.
    have onlySlashes := ih [] fun c member => all c (by simp [member])
    rw [names_append_slash]
    simpa [names, Text.cut] using onlySlashes

/-- Pieces without slashes are the names of the path that they are joined to. -/
theorem names_join_pieces {body : List Text} (plain : ∀ piece ∈ body, '/' ∉ piece) :
    names (Text.join ['/'] body) = body.filter fun piece => !piece.isEmpty := by
  cases body with
  | nil => rfl
  | cons piece rest => rw [names, Text.cut_join (List.cons_ne_nil _ _) plain]

/-- A path below another has the names of both. -/
theorem names_join {rest : Text} (relative : isAbsolute rest = false) (base : Text) :
    names (join base rest) = names base ++ names rest := by
  unfold join
  rw [if_neg (by simp [relative])]
  -- A base that is empty or ends in a slash is joined without another.
  by_cases bare : (base.isEmpty || base.getLast? == some '/') = true
  · rw [if_pos bare]
    rcases List.eq_nil_or_concat base with rfl | ⟨front, last, rfl⟩
    · rfl
    · -- The slash that ends the base separates the two.
      rw [List.concat_eq_append] at bare ⊢
      obtain rfl : last = '/' := by simpa using bare
      have ended := names_append_slash front []
      rw [List.append_assoc, List.singleton_append, names_append_slash, ended, List.append_assoc]
      rfl
  · rw [if_neg bare, List.append_assoc, List.singleton_append, names_append_slash]

/-- A path below another starts where that starts. -/
theorem isAbsolute_join {rest : Text} (relative : isAbsolute rest = false) (base : Text) :
    isAbsolute (join base rest) = isAbsolute base := by
  unfold join
  rw [if_neg (by simp [relative])]
  -- The first character is that of the base, unless the base is empty.
  cases base with
  | nil => exact relative
  | cons c more => split <;> rfl

/-- The last character of a path below another is that of the path that was joined. -/
theorem getLast?_join {rest : Text} (nonempty : rest ≠ []) (base : Text) :
    (join base rest).getLast? = rest.getLast? := by
  have last (front : Text) : (front ++ rest).getLast? = rest.getLast? := by
    rw [List.getLast?_append]
    cases found : rest.getLast? with
    | none => exact absurd (List.getLast?_eq_none_iff.mp found) nonempty
    | some c => rfl
  unfold join
  split
  · rfl
  · -- In all three cases something is put before the path that was joined.
    split
    · exact last base
    · exact last (base ++ ['/'])

/-- The names that the start of a path stands for. -/
def Start.names : Start → List Text
  | .here => [['.']]
  | _ => []

/-- The start of a path and its pieces tell its names, and whether it is absolute. -/
theorem of_pieces {path : Text} {start : Start} {body : List Text}
    (split : pieces path = (start, body)) :
    (∀ piece ∈ body, '/' ∉ piece) ∧
      names path = start.names ++ (body.filter fun piece => !piece.isEmpty) ∧
      (isAbsolute path = true ↔ start = .root) ∧ (start = .bare → body = Text.cut '/' path) := by
  have plain : ∀ piece ∈ Text.cut '/' path, '/' ∉ piece := fun piece member =>
    (Text.of_mem_cut member).1
  unfold pieces at split
  split at split
  · -- The slash at the start of an absolute path ends an empty piece.
    rename_i rest
    obtain ⟨rfl, rfl⟩ : Start.root = start ∧ Text.cut '/' rest = body := by simpa using split
    refine ⟨fun piece member => (Text.of_mem_cut member).1, ?_, by simp [isAbsolute], by simp⟩
    simp [Path.names, Start.names, Text.cut]
  · rename_i notRoot
    have relative : isAbsolute path = false := by
      cases path with
      | nil => rfl
      | cons c rest =>
        have other : c ≠ '/' := fun slash => notRoot rest (by rw [slash])
        simpa [isAbsolute] using other
    -- Without the root a path starts with a point or with a name.
    split at split
    · rename_i rest shape
      obtain ⟨rfl, rfl⟩ : Start.here = start ∧ rest = body := by simpa using split
      rw [shape] at plain
      refine ⟨fun piece member => plain piece (by simp [member]), ?_, by simp [relative], by simp⟩
      simp [Path.names, shape, Start.names]
    · obtain ⟨rfl, rfl⟩ : Start.bare = start ∧ Text.cut '/' path = body := by simpa using split
      exact ⟨plain, rfl, by simp [relative], fun _ => rfl⟩

/-- What is left without padding comes first. -/
theorem dropPadding_first (body : List Text) : dropPadding body <+: body := by
  have ending := List.dropWhile_suffix (l := body.reverse) isPadding
  simpa [dropPadding] using List.reverse_prefix.mpr ending

/-- The first pieces of a path make a path that starts like it, with the first of its names. -/
theorem of_ofPieces {path : Text} {start : Start} {body : List Text}
    (split : pieces path = (start, body)) {first : List Text} (shorter : first <+: body) :
    names (ofPieces start first) <+: names path ∧
      (ofPieces start first ≠ [] → isAbsolute (ofPieces start first) = isAbsolute path) := by
  obtain ⟨plain, allNames, absolute, whole⟩ := of_pieces split
  have namesOf := names_join_pieces fun piece member => plain piece (shorter.subset member)
  have filtered := shorter.filter fun piece => !piece.isEmpty
  rw [allNames]
  -- The three ways to start differ in what stands before the first name.
  cases start with
  | root =>
    refine ⟨?_, fun _ => by rw [absolute.mpr rfl]; rfl⟩
    have slash := names_append_slash [] (Text.join ['/'] first)
    simp only [ofPieces, Start.names, List.nil_append] at slash ⊢
    rw [slash, namesOf]
    exact filtered
  | here =>
    have relative : isAbsolute path = false := by simpa using absolute
    rw [relative]
    cases first with
    | nil => exact ⟨List.prefix_append _ _, fun _ => rfl⟩
    | cons piece rest =>
      refine ⟨?_, fun _ => rfl⟩
      have point := names_append_slash ['.'] (Text.join ['/'] (piece :: rest))
      have shape : ofPieces .here (piece :: rest) =
        ['.'] ++ '/' :: Text.join ['/'] (piece :: rest) := rfl
      rw [shape, point, namesOf]
      exact List.prefix_append_right_inj _ |>.mpr filtered
  | bare =>
    have relative : isAbsolute path = false := by simpa using absolute
    rw [relative]
    refine ⟨by simpa [ofPieces, namesOf, Start.names] using filtered, fun nonempty => ?_⟩
    rw [whole rfl] at shorter
    cases first with
    | nil => exact absurd rfl nonempty
    | cons piece rest =>
      cases path with
      | nil =>
        -- The empty path has one piece, which makes an empty path again.
        obtain ⟨rfl, rest⟩ := List.cons_prefix_cons.mp shorter
        obtain rfl := List.prefix_nil.mp rest
        exact absurd rfl nonempty
      | cons c tail =>
        -- A slash at the start would have been one of the path itself.
        have other : c ≠ '/' := by simpa [isAbsolute] using relative
        obtain ⟨front, after, cuts⟩ := List.exists_cons_of_ne_nil (Text.cut_ne_nil '/' tail)
        rw [Text.cut_cons other cuts] at shorter
        obtain ⟨rfl, -⟩ := List.cons_prefix_cons.mp shorter
        cases rest <;> simpa [ofPieces, Text.join, isAbsolute] using other

/-- The path above another starts like it, with the first of its names. -/
theorem of_parent? {path above : Text} (found : parent? path = some above) :
    names above <+: names path ∧ (above ≠ [] → isAbsolute above = isAbsolute path) := by
  rcases split : pieces path with ⟨start, body⟩
  unfold parent? at found
  simp only [split] at found
  cases kept : dropPadding body with
  | nil =>
    -- Nothing but a point stands there.
    simp only [kept] at found
    split at found
    · obtain rfl : [] = above := by simpa using found
      exact ⟨List.nil_prefix, fun nonempty => absurd rfl nonempty⟩
    · cases found
  | cons first more =>
    simp only [kept] at found
    obtain rfl : ofPieces start (dropPadding (first :: more).dropLast) = above := by
      simpa using found
    refine of_ofPieces split ?_
    rw [← kept]
    exact (dropPadding_first _).trans ((List.dropLast_prefix _).trans (dropPadding_first _))

end Path

namespace FileTree

/-- Paths with the same start lead from the same place. -/
theorem origin_congr (tree : FileTree) {path other : Text}
    (same : Path.isAbsolute path = Path.isAbsolute other) : tree.origin path = tree.origin other := by
  rw [origin, origin, same]

/-- The steps of a path below another: those of the path that was joined come last. -/
theorem steps_join {rest : Text} (relative : Path.isAbsolute rest = false) (nonempty : rest ≠ [])
    (base : Text) : steps (Path.join base rest) = Path.names base ++ steps rest := by
  have names := Path.names_join relative base
  unfold Path.names at names
  unfold steps
  rw [Path.getLast?_join nonempty, names]
  split
  · rw [List.append_assoc]; rfl
  · rfl

/-- A path whose names do not climb does not climb. -/
theorem noClimb_steps {path : Text} (noClimb : "..".toList ∉ Path.names path) :
    "..".toList ∉ steps path := by
  unfold steps
  split
  · -- The step that a slash at the end adds is a point.
    rw [List.mem_append]
    exact fun climbs => climbs.elim noClimb (by decide)
  · exact noClimb

/-- A path and those above it start alike, each with the first names of it. -/
theorem of_mem_upward {fuel : Nat} {path above : Text} (member : above ∈ upward fuel path) :
    Path.names above <+: Path.names path ∧ Path.isAbsolute above = Path.isAbsolute path := by
  induction fuel generalizing path with
  | zero => simp [upward] at member
  | succ fuel ih =>
    by_cases none : path.isEmpty = true
    · simp [upward, none] at member
    rw [upward, if_neg none, List.mem_cons] at member
    rcases member with rfl | member
    · exact ⟨List.prefix_rfl, rfl⟩
    · cases parent : Path.parent? path with
      | none => simp [parent] at member
      | some next =>
        simp only [parent, Option.map_some, Option.getD_some] at member
        obtain ⟨names, absolute⟩ := ih member
        obtain ⟨above, same⟩ := Path.of_parent? parent
        have nonempty : next ≠ [] := fun empty => by
          subst empty
          cases fuel <;> simp [upward] at member
        exact ⟨names.trans above, absolute.trans (same nonempty)⟩

/-- A path is slashes alone, which are kept, or ends in slashes that are dropped. -/
theorem dropSlashes_cases (path : Text) :
    ((∀ c ∈ path, c = '/') ∧ dropSlashes path = path) ∨
      ∃ slashes, path = dropSlashes path ++ slashes ∧ (∀ c ∈ slashes, c = '/') ∧
        dropSlashes path ≠ [] ∧ (dropSlashes path).getLast? ≠ some '/' := by
  have parts : path = (path.reverse.dropWhile (· == '/')).reverse ++
      (path.reverse.takeWhile (· == '/')).reverse := by
    rw [← List.reverse_append, List.takeWhile_append_dropWhile, List.reverse_reverse]
  have slashes : ∀ c ∈ (path.reverse.takeWhile (· == '/')).reverse, c = '/' := fun c member => by
    simpa using List.all_eq_true.mp List.all_takeWhile c (List.mem_reverse.mp member)
  unfold dropSlashes
  cases shape : path.reverse.dropWhile (· == '/') with
  | nil =>
    rw [shape, List.reverse_nil, List.nil_append] at parts
    rw [← parts] at slashes
    exact .inl ⟨slashes, rfl⟩
  | cons last front =>
    have stops := List.head?_dropWhile_not (· == '/') path.reverse
    rw [shape] at stops parts
    rw [List.reverse_cons] at parts ⊢
    have nonempty : front.reverse ++ [last] ≠ [] := List.concat_ne_nil _ _
    have ending : (front.reverse ++ [last]).getLast? ≠ some '/' := by
      rw [List.getLast?_concat]
      simpa using stops
    generalize front.reverse ++ [last] = text at parts nonempty ending
    cases text with
    | nil => exact absurd rfl nonempty
    | cons => exact .inr ⟨_, parts, slashes, nonempty, ending⟩

/-- A path without the slashes at its end has the same names; only the root keeps a slash. -/
theorem of_dropSlashes (path : Text) :
    Path.isAbsolute (dropSlashes path) = Path.isAbsolute path ∧
      (steps (dropSlashes path) = Path.names path ∨
        Path.isAbsolute path = true ∧ steps (dropSlashes path) = [['.']]) := by
  rcases dropSlashes_cases path with ⟨slashes, same⟩ | ⟨slashes, whole, all, nonempty, ending⟩
  · rw [same]
    cases path with
    | nil => exact ⟨rfl, .inl rfl⟩
    | cons c rest =>
      obtain rfl := slashes c (by simp)
      have none : Path.names ('/' :: rest) = [] := Path.names_append_slashes [] slashes
      have ends : ('/' :: rest).getLast? = some '/' := by
        rw [List.getLast?_eq_some_getLast (List.cons_ne_nil _ _)]
        exact congrArg some (slashes _ (List.getLast_mem _))
      refine ⟨rfl, .inr ⟨rfl, ?_⟩⟩
      unfold Path.names at none
      rw [steps, if_pos ends, none, List.nil_append]
  · generalize dropSlashes path = kept at whole nonempty ending
    subst whole
    obtain ⟨c, rest, rfl⟩ := List.exists_cons_of_ne_nil nonempty
    refine ⟨rfl, .inl ?_⟩
    rw [steps, if_neg ending, Path.names_append_slashes _ all, Path.names]

end FileTree
end IdlScout
