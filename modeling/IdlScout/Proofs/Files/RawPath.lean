import IdlScout.Files.RawPath
import IdlScout.Proofs.Files.Components
import IdlScout.Proofs.Text.Firsts
import IdlScout.Proofs.Text.Utf8

/-! Paths that texts spell among all paths: they are shown as these texts, and they are the same
exactly if the texts are spellings of one path. -/

namespace IdlScout

/-- An ASCII byte among the bytes of a character is all of the character. -/
theorem Utf8.eq_of_mem_encodeChar {c : Char} {byte : UInt8}
    (member : byte ∈ String.utf8EncodeChar c) (ascii : byte.toNat < 128) :
    c = Char.ofNat byte.toNat := by
  obtain ⟨before, after, split⟩ := List.append_of_mem member
  -- Reading goes on anew behind the byte, so the character is read as the byte and two more parts.
  have read : [c] = decodeLossy before ++ Char.ofNat byte.toNat :: decodeLossy after := by
    rw [← decodeLossy_append_ascii before ascii after, ← split]
    simpa [encode] using (decodeLossy_encode [c]).symm
  have alone : decodeLossy before = [] := by
    have length := congrArg List.length read
    simp only [List.length_append, List.length_cons, List.length_nil] at length
    exact List.length_eq_zero_iff.mp (by omega)
  rw [alone] at read
  exact (List.cons.inj read).1

namespace RawPath

/-- Whether a text spells a path. -/
def IsSpelled (path : RawPath) : Prop :=
  ∃ text, ofText text = path

/-- The path of a text is shown as the text. -/
@[simp] theorem shown_ofText (text : Text) : (ofText text).shown = text :=
  Utf8.decodeLossy_encode text

/-- Different texts spell different paths. -/
theorem ofText_injective : Function.Injective ofText :=
  -- What a path is shown as is the text again.
  Function.LeftInverse.injective shown_ofText

/-- A text that spells a path is the one that the path is shown as. -/
theorem isSpelled_iff {path : RawPath} : path.IsSpelled ↔ ofText path.shown = path := by
  constructor
  · rintro ⟨text, rfl⟩
    rw [shown_ofText]
  · exact fun same => ⟨_, same⟩

instance (path : RawPath) : Decidable path.IsSpelled :=
  decidable_of_iff _ isSpelled_iff.symm

/-! ### Components byte for byte -/

/-- The characters that the bytes of a character stand as. -/
def signs (c : Char) : Text :=
  (String.utf8EncodeChar c).map fun byte => Char.ofNat byte.toNat

/-- The path of a text has the signs of its characters, one after the other. -/
theorem spelling_ofText (text : Text) : (ofText text).spelling = text.flatMap signs := by
  rw [spelling, ofText, Utf8.encode, List.map_flatMap]
  rfl

/-- The number of a byte is that of the character it stands as. -/
theorem toNat_sign (byte : UInt8) : (Char.ofNat byte.toNat).toNat = byte.toNat := by
  -- All numbers of bytes are below those that no character has.
  have small : byte.toNat < 256 := byte.toNat_lt
  have valid : byte.toNat.isValidChar := .inl (by omega)
  rw [Char.ofNat, dif_pos valid]
  rfl

/-- An ASCII character is among the signs of itself only. -/
theorem eq_of_mem_signs {c sign : Char} (member : sign ∈ signs c) (ascii : sign.toNat < 128) :
    c = sign := by
  obtain ⟨byte, listed, rfl⟩ := List.mem_map.mp member
  rw [toNat_sign] at ascii
  exact Utf8.eq_of_mem_encodeChar listed ascii

/-- Bytes are told apart by the characters that they stand as. -/
theorem spelling_injective : Function.Injective spelling := by
  rintro ⟨bytes⟩ ⟨others⟩ same
  have apart : Function.Injective fun byte : UInt8 => Char.ofNat byte.toNat := by
    intro a b alike
    have numbers := congrArg Char.toNat alike
    rw [toNat_sign, toNat_sign] at numbers
    exact UInt8.toNat_inj.mp numbers
  exact congrArg RawPath.mk (List.map_injective_iff.mpr apart same)

/-- A text as the bytes of its path stand as characters. -/
def wide (text : Text) : Text :=
  (ofText text).spelling

/-- Different texts stay different byte for byte. -/
theorem wide_injective : Function.Injective wide :=
  spelling_injective.comp ofText_injective

/-- Paths are cut at the same slashes byte for byte. -/
theorem cut_wide (text : Text) : Text.cut '/' (wide text) = (Text.cut '/' text).map wide := by
  have same : wide = fun text => text.flatMap signs := funext spelling_ofText
  rw [same]
  exact Text.cut_flatMap rfl (fun c member => eq_of_mem_signs member (by decide)) text

/-- The way is that of the text, byte for byte. -/
theorem way_wide (text : Text) : Path.way (wide text) = (Path.way text).map wide := by
  have kept (piece : Text) : (decide (wide piece ≠ ['.']) && !(wide piece).isEmpty) =
      (decide (piece ≠ ['.']) && !piece.isEmpty) := by
    -- Nothing else becomes a point, or nothing at all.
    have point : wide piece = ['.'] ↔ piece = ['.'] := wide_injective.eq_iff' rfl
    have empty : wide piece = [] ↔ piece = [] := wide_injective.eq_iff' rfl
    rw [Bool.eq_iff_iff]
    simp [point, empty]
  simp only [Path.way, Path.names, cut_wide, List.filter_map, List.filter_filter,
    Function.comp_def, kept]

/-- A slash at the start is one of the text. -/
theorem isAbsolute_wide (text : Text) : Path.isAbsolute (wide text) = Path.isAbsolute text := by
  cases text with
  | nil => rfl
  | cons c rest =>
    rw [wide, spelling_ofText, List.flatMap_cons]
    by_cases slash : c = '/'
    · rw [slash]
      rfl
    · -- Another character has signs, and none of them is a slash.
      have some : signs c ≠ [] := by
        simp [signs, ← List.length_eq_zero_iff, (Char.utf8Size_pos c).ne']
      obtain ⟨first, more, begins⟩ := List.exists_cons_of_ne_nil some
      have other : first ≠ '/' := fun same =>
        slash (eq_of_mem_signs (by simp [begins, same]) (by decide))
      simp [Path.isAbsolute, begins, other, slash]

/-- Paths start with the same byte for byte. -/
theorem start_wide (text : Text) : Path.start (wide text) = Path.start text := by
  cases absolute : Path.isAbsolute text with
  | true =>
    obtain ⟨rest, rfl⟩ : ∃ rest, text = '/' :: rest := by
      cases text <;> simp_all [Path.isAbsolute]
    rfl
  | false =>
    -- A point is the first piece if it is that of the text.
    have point : ((Text.cut '/' text).map wide).head? = some ['.'] ↔
        (Text.cut '/' text).head? = some ['.'] := by
      rw [List.head?_map]
      exact (Option.map_injective wide_injective).eq_iff' rfl
    rw [Path.start_of_relative absolute, Path.start_of_relative (by rw [isAbsolute_wide, absolute]),
      cut_wide]
    simp only [point]

/-- Paths that texts spell are the same exactly if the texts are spellings of one path. -/
theorem same_ofText (a b : Text) : same (ofText a) (ofText b) = Path.same a b := by
  -- Components are told by the start and the way, and both are kept byte for byte.
  have ways : Path.way (wide a) = Path.way (wide b) ↔ Path.way a = Path.way b := by
    rw [way_wide, way_wide]
    exact (List.map_injective_iff.mpr wide_injective).eq_iff
  have alike : Path.components (wide a) = Path.components (wide b) ↔
      Path.components a = Path.components b := by
    rw [Path.components_inj_iff, Path.components_inj_iff, start_wide, start_wide, ways]
  rw [Bool.eq_iff_iff]
  simpa [same, Path.same, wide] using alike

/-! ### The first of each group of the same paths -/

/-- The first spellings of paths are left when the later ones of each path are erased. -/
theorem distinct_eq (paths : List RawPath) : distinct paths = paths.eraseDupsBy same :=
  -- Paths are the same when they have the same components.
  Text.firstsBy_eq_eraseDupsBy (fun path : RawPath => Path.components path.spelling) paths

/-- Among paths that texts spell, the first ones are those of the first texts. -/
theorem distinct_map_ofText (texts : List Text) :
    distinct (texts.map ofText) = (texts.eraseDupsBy Path.same).map ofText := by
  have alike : (fun a b => same (ofText a) (ofText b)) = Path.same := by
    funext a b
    exact same_ofText a b
  have firsts : Text.firstsBy Path.same texts = texts.eraseDupsBy Path.same :=
    Text.firstsBy_eq_eraseDupsBy Path.components texts
  rw [distinct, Text.firstsBy_map, alike, firsts]

end RawPath
end IdlScout
