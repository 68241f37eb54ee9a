import IdlScout.Json.Printer

/-! Strings in JSON: every spelling that a string can have is read as its units, and the text that
the units write is read from them. -/

namespace IdlScout
namespace Json

/-- A unit between quotes: a character as it is, if it is printable and neither the quote nor the
backslash, an escape of one letter, or one of four digits in letters of either case. -/
inductive StringUnit.IsSpelled : StringUnit → Text → Prop where
  | plain {c : Char} (printable : 32 ≤ c.toNat) (noQuote : c ≠ '"') (noBackslash : c ≠ '\\') :
    IsSpelled (.char c) [c]
  | letter {c written : Char} (stands : simpleEscape? c = some written) :
    IsSpelled (.char written) ['\\', c]
  | digits {a b c d : Char} {code : Nat} (hex : Numeral.hexValue? [a, b, c, d] = some code) :
    IsSpelled (.ofCode code) ['\\', 'u', a, b, c, d]

/-- Units in a row between quotes. -/
inductive AreSpelled : List StringUnit → Text → Prop where
  | nil : AreSpelled [] []
  | cons {unit : StringUnit} {units : List StringUnit} {piece rest : Text}
      (first : unit.IsSpelled piece) (others : AreSpelled units rest) :
    AreSpelled (unit :: units) (piece ++ rest)

/-- However a unit is spelled, it is read back. -/
theorem StringUnit.IsSpelled.stringUnits {unit : StringUnit} {piece : Text}
    (spelled : unit.IsSpelled piece) (rest : Text) :
    Json.stringUnits (piece ++ rest) =
      (unit :: (Json.stringUnits rest).1, (Json.stringUnits rest).2) := by
  cases spelled with
  | plain printable noQuote noBackslash =>
    have solid := Nat.not_lt.mpr printable
    simp [Json.stringUnits, noBackslash, solid]
  | letter stands =>
    -- None of the letters is the mark of four digits.
    unfold simpleEscape? at stands
    split at stands <;>
      first
      | (obtain rfl := Option.some.inj stands; simp [Json.stringUnits, simpleEscape?])
      | cases stands
  | digits hex => simp [Json.stringUnits, hex]

/-- However units are spelled between quotes, they are read back. -/
theorem AreSpelled.stringUnits {units : List StringUnit} {text : Text}
    (spelled : AreSpelled units text) (rest : Text) :
    Json.stringUnits (text ++ '"' :: rest) = (units, .ok rest) := by
  induction spelled with
  | nil => rfl
  | cons first _ ih => rw [List.append_assoc, first.stringUnits, ih]

/-- Each character that is written as four digits is read back from them. -/
theorem hexValue?_hexDigits : ∀ code < 32,
    Numeral.hexValue? ['0', '0', hexDigit (code / 16), hexDigit (code % 16)] = some code := by
  decide

/-- A character is spelled as it is printed. -/
theorem isSpelled_escape (c : Char) : StringUnit.IsSpelled (.char c) (escape c) := by
  -- The characters with a letter of their own come first, one after the other.
  unfold escape
  split
  · rename_i same
    subst same
    exact .letter rfl
  rename_i noQuote
  split
  · rename_i same
    subst same
    exact .letter rfl
  rename_i noBackslash
  split
  · -- A backspace and a form feed are told by their numbers.
    rename_i code
    obtain rfl : c = Char.ofNat 8 := by rw [← code, Char.ofNat_toNat]
    exact .letter rfl
  split
  · rename_i code
    obtain rfl : c = Char.ofNat 12 := by rw [← code, Char.ofNat_toNat]
    exact .letter rfl
  split
  · rename_i same
    subst same
    exact .letter rfl
  split
  · rename_i same
    subst same
    exact .letter rfl
  split
  · rename_i same
    subst same
    exact .letter rfl
  split
  · -- Four digits give the character's number, which is no half of a pair.
    rename_i control
    have noHalf : ¬ 0xD800 ≤ c.toNat := by omega
    have spelled := StringUnit.IsSpelled.digits (hexValue?_hexDigits _ control)
    simpa [StringUnit.ofCode, noHalf, Char.ofNat_toNat] using spelled
  · rename_i printable
    exact .plain (Nat.not_lt.mp printable) noQuote noBackslash

/-- A text is spelled as it is printed between quotes. -/
theorem areSpelled_flatMap_escape (text : Text) :
    AreSpelled (text.map .char) (text.flatMap escape) := by
  induction text with
  | nil => exact .nil
  | cons c rest ih => exact .cons (isSpelled_escape c) ih

/-- The text that units write: a character writes itself, and the two halves of a pair, the high one
first, write one character past sixteen bits. -/
inductive Write : List StringUnit → Text → Prop where
  | nil : Write [] []
  | char {c : Char} {units : List StringUnit} {text : Text} (others : Write units text) :
    Write (.char c :: units) (c :: text)
  | pair {high low : Nat} {c : Char} {units : List StringUnit} {text : Text}
      (isHigh : 0xD800 ≤ high ∧ high ≤ 0xDBFF) (isLow : 0xDC00 ≤ low ∧ low ≤ 0xDFFF)
      (code : c.toNat = 0x10000 + (high - 0xD800) * 0x400 + (low - 0xDC00))
      (others : Write units text) :
    Write (.surrogate high :: .surrogate low :: units) (c :: text)

/-- Units are read as the text that they write. -/
theorem Write.unitsText {units : List StringUnit} {text : Text} (writes : Write units text) :
    Json.unitsText none units = .ok text := by
  induction writes with
  | nil => rfl
  | char _ ih => rw [Json.unitsText, ih]; rfl
  | pair isHigh isLow code _ ih =>
    simp [Json.unitsText, isHigh.2, isLow.1, ih, StringUnit.pair, ← code, Except.map]

/-- Characters write their text. -/
theorem write_chars (text : Text) : Write (text.map .char) text := by
  induction text with
  | nil => exact .nil
  | cons c rest ih => exact .char ih

/-- Characters are read as their text. -/
theorem unitsText_chars (text : Text) : unitsText none (text.map .char) = .ok text :=
  (write_chars text).unitsText

end Json
end IdlScout
