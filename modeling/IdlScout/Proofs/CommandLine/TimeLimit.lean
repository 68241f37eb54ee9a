import IdlScout.CommandLine.TimeLimit
import IdlScout.Proofs.Text.Numeral
import IdlScout.Text.Utf8
import Mathlib.Order.Monotone.Basic

/-! Lengths of time: exactly the numerals of 64 bits with the letter of a unit or without one are
read, and a length past the longest one is that. -/

namespace IdlScout

namespace TimeUnit

/-- What may stand behind a number of the unit: its letter in either case, and for seconds nothing
as well. -/
def endings : TimeUnit → List Text
  | .seconds => [[], ['s'], ['S']]
  | .minutes => [['m'], ['M']]
  | .hours => [['h'], ['H']]

variable {unit : TimeUnit} {c : Char}

/-- The letters of a unit are those that may stand behind a number of it. -/
theorem ofLetter?_eq_some_iff : ofLetter? c = some unit ↔ [c] ∈ unit.endings := by
  constructor
  · intro found
    unfold ofLetter? at found
    -- Each test is for the two letters of its unit.
    split_ifs at found with s m h
    all_goals
      obtain rfl := Option.some.inj found
      simp_all [endings]
  · intro listed
    cases unit <;> simp only [endings, List.mem_cons, List.cons.injEq, and_true, List.not_mem_nil,
      or_false, reduceCtorEq, false_or] at listed <;> rcases listed with rfl | rfl <;> rfl

/-- Letters of units are no digits, and have one byte each. -/
theorem of_mem_endings {ending : Text} (listed : ending ∈ unit.endings) (member : c ∈ ending) :
    isAsciiDigit c = false ∧ (String.utf8EncodeChar c).length = 1 := by
  have inLetters : c ∈ unit.endings.flatten := List.mem_flatten_of_mem listed member
  cases unit <;> simp [endings] at inLetters <;> rcases inLetters with rfl | rfl <;> decide

/-- A digit is the letter of no unit. -/
theorem ofLetter?_of_isAsciiDigit (digit : isAsciiDigit c = true) : ofLetter? c = none := by
  cases found : ofLetter? c with
  | none => rfl
  | some unit =>
    have other := (of_mem_endings (ofLetter?_eq_some_iff.mp found) List.mem_cons_self).1
    rw [digit] at other
    cases other

end TimeUnit

namespace TimeLimit

/-- A time is its numeral and what may stand behind it. -/
theorem exists_ending (text : Text) :
    ∃ ending ∈ (split text).2.endings, text = (split text).1 ++ ending := by
  unfold split
  split
  · rename_i unit found
    obtain ⟨letter, last, ofUnit⟩ := Option.bind_eq_some_iff.mp found
    obtain ⟨front, rfl⟩ := List.getLast?_eq_some_iff.mp last
    exact ⟨[letter], TimeUnit.ofLetter?_eq_some_iff.mp ofUnit, by simp⟩
  · exact ⟨[], by simp [TimeUnit.endings], (List.append_nil text).symm⟩

/-- Behind a digit, what may stand there is cut off. -/
theorem split_append {numeral ending : Text} {unit : TimeUnit} {digit : Char}
    (last : numeral.getLast? = some digit) (isDigit : isAsciiDigit digit = true)
    (listed : ending ∈ unit.endings) : split (numeral ++ ending) = (numeral, unit) := by
  cases ending with
  | nil =>
    -- Only seconds go without a letter, and the digit is none.
    obtain rfl : unit = .seconds := by
      cases unit <;> simp [TimeUnit.endings] at listed ⊢
    simp [split, last, TimeUnit.ofLetter?_of_isAsciiDigit isDigit]
  | cons letter rest =>
    obtain rfl : rest = [] := by
      cases unit <;> simp [TimeUnit.endings] at listed <;> grind
    simp [split, TimeUnit.ofLetter?_eq_some_iff.mpr listed]

/-- A time is read as the number that its numeral means, with its unit. -/
theorem read_eq_ok_iff {text : Text} {limit : TimeLimit} :
    read text = .ok limit ↔
      Numeral.read? Numeral.max64 (split (Text.trim text)).1 = some limit.count ∧
        (split (Text.trim text)).2 = limit.unit := by
  unfold read
  by_cases empty : Text.trim text = []
  · -- Where nothing is written there is no numeral.
    have nothing : Numeral.read? Numeral.max64 (split []).1 = none := by decide
    simp [empty, nothing]
  · dsimp only
    rw [if_neg (by simpa using empty)]
    obtain ⟨count, unit⟩ := limit
    cases Numeral.read? Numeral.max64 (split (Text.trim text)).1 <;> simp

/-- What is cut off with the letter of a unit is one byte. -/
theorem encode_split {text : Text} {letter : Char} (last : text.getLast? = some letter)
    (isLetter : (TimeUnit.ofLetter? letter).isSome = true) :
    text = (split text).1 ++ [letter] ∧
      Utf8.encode (split text).1 = (Utf8.encode text).take (Utf8.size text - 1) := by
  obtain ⟨front, rfl⟩ := List.getLast?_eq_some_iff.mp last
  obtain ⟨unit, found⟩ := Option.isSome_iff_exists.mp isLetter
  have cutOff : split (front ++ [letter]) = (front, unit) := by simp [split, found]
  have single :=
    (TimeUnit.of_mem_endings (TimeUnit.ofLetter?_eq_some_iff.mp found) List.mem_cons_self).2
  refine ⟨by rw [cutOff], ?_⟩
  simp [cutOff, Utf8.encode, Utf8.size, single]

/-- A text is read as a length of time exactly if, without the blanks around it, it is digits that
mean the number, with a plus sign before them or without, and then the letter of the unit, which may
be missing for seconds, and the number fits in 64 bits. The length is that many seconds, minutes or
hours, or the longest that fits in 64 bits if it is longer, and grows with the number. The byte that
is cut off with a letter is all of the letter. -/
theorem read_exactly_times (text : Text) :
    (∀ limit, read text = .ok limit ↔
      ∃ sign ∈ [[], ['+']], ∃ digits, ∃ ending ∈ limit.unit.endings,
        Text.trim text = sign ++ digits ++ ending ∧ Numeral.Denotes digits limit.count ∧
          limit.count ≤ 2 ^ 64 - 1) ∧
    (∀ count, seconds ⟨count, .seconds⟩ = min count (2 ^ 64 - 1) ∧
      seconds ⟨count, .minutes⟩ = min (60 * count) (2 ^ 64 - 1) ∧
      seconds ⟨count, .hours⟩ = min (3600 * count) (2 ^ 64 - 1)) ∧
    (∀ unit, Monotone fun count => seconds ⟨count, unit⟩) ∧
    ∀ letter, (Text.trim text).getLast? = some letter →
      (TimeUnit.ofLetter? letter).isSome = true →
      let numeral := (split (Text.trim text)).1
      Text.trim text = numeral ++ [letter] ∧
        Utf8.encode numeral =
          (Utf8.encode (Text.trim text)).take (Utf8.size (Text.trim text) - 1) := by
  refine ⟨fun limit => ?_, fun count => ?_, fun unit few many more => ?_,
    fun letter last isLetter => encode_split last isLetter⟩
  · rw [read_eq_ok_iff, Numeral.read?_eq_some_iff]
    constructor
    · rintro ⟨⟨digits, signed, denotes, fits⟩, sameUnit⟩
      obtain ⟨ending, listed, whole⟩ := exists_ending (Text.trim text)
      rw [sameUnit] at listed
      rcases signed with plain | signed
      · exact ⟨[], by simp, digits, ending, listed, by rw [whole, plain]; rfl, denotes, fits⟩
      · exact ⟨['+'], by simp, digits, ending, listed, by rw [whole, signed]; rfl, denotes, fits⟩
    · rintro ⟨sign, signs, digits, ending, listed, whole, denotes, fits⟩
      -- The numeral ends in a digit, so that what follows it is cut off.
      obtain ⟨front, digit, rfl⟩ := (List.eq_nil_or_concat digits).resolve_left denotes.nonempty
      have isDigit : isAsciiDigit digit = true :=
        List.all_eq_true.mp (Numeral.denotes_iff.mp denotes).2.1 digit (by simp)
      have last : (sign ++ front.concat digit).getLast? = some digit := by simp
      rw [whole, split_append last isDigit listed]
      refine ⟨⟨front.concat digit, ?_, denotes, fits⟩, rfl⟩
      obtain rfl | rfl : sign = [] ∨ sign = ['+'] := by simpa using signs
      · exact .inl rfl
      · exact .inr rfl
  · simp only [seconds, TimeUnit.scale, secondLimit, Numeral.max64]
    omega
  · exact min_le_min_right _ (Nat.mul_le_mul_right _ more)

example : (read "\u3000+0005124095576030432H\n".toList).map seconds = .ok (2 ^ 64 - 1) := by
  decide +kernel

end TimeLimit
end IdlScout
