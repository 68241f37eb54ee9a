import IdlScout.Text.Numeral
import Mathlib.Data.List.Induction
import Mathlib.Data.Nat.Digits.Defs

/-! What a decimal numeral means by the places of its digits, and that exactly the numerals of
numbers up to a bound are read under it. -/

namespace IdlScout
namespace Numeral

/-- One or more digits from 0 to 9 that mean a number: from the right they count ones, tens,
hundreds and so on. Zeros at the left count nothing. -/
structure Denotes (digits : Text) (n : Nat) : Prop where
  nonempty : digits ≠ []
  decimal : ∀ c ∈ digits, '0' ≤ c ∧ c ≤ '9'
  places : n = Nat.ofDigits 10 (digits.reverse.map digit)

/-- The value of digits is the sum over their places. -/
theorem value_eq_ofDigits (digits : Text) :
    value digits = Nat.ofDigits 10 (digits.reverse.map digit) := by
  -- A digit is added at the right, where the ones are.
  induction digits using List.reverseRecOn with
  | nil => rfl
  | append_singleton front c ih =>
    have shifted : value (front ++ [c]) = 10 * value front + digit c := by
      simp [value, List.foldl_append]
    rw [shifted, ih, List.reverse_append, List.reverse_singleton, List.singleton_append,
      List.map_cons, Nat.ofDigits_cons, Nat.add_comm]

variable {digits : Text} {n : Nat}

/-- Digits mean their value and no other number. -/
theorem denotes_iff :
    Denotes digits n ↔ digits ≠ [] ∧ digits.all isAsciiDigit = true ∧ value digits = n := by
  have decimal : (∀ c ∈ digits, '0' ≤ c ∧ c ≤ '9') ↔ digits.all isAsciiDigit = true := by
    simp [isAsciiDigit]
  rw [value_eq_ofDigits, ← decimal]
  exact ⟨fun ⟨nonempty, decimal, places⟩ => ⟨nonempty, decimal, places.symm⟩,
    fun ⟨nonempty, decimal, places⟩ => ⟨nonempty, decimal, places.symm⟩⟩

/-- Nothing but digits is among the digits of a number. -/
theorem Denotes.not_mem (denotes : Denotes digits n) {c : Char} (other : isAsciiDigit c = false) :
    c ∉ digits := fun member => by
  have digit := List.all_eq_true.mp (denotes_iff.mp denotes).2.1 c member
  rw [other] at digit
  cases digit

/-- The digits of a number do not begin with a plus sign. -/
theorem Denotes.dropPlus (denotes : Denotes digits n) : Numeral.dropPlus digits = digits := by
  cases digits with
  | nil => rfl
  | cons c rest =>
    have other : c ≠ '+' := by
      rintro rfl
      exact denotes.not_mem (by decide) List.mem_cons_self
    simp [Numeral.dropPlus, other]

/-- A text is read as a number exactly if it is digits that mean the number, with a plus sign before
them or without, and the number obeys the bound. -/
theorem read?_eq_some_iff {bound : Nat} {text : Text} :
    read? bound text = some n ↔
      ∃ digits, (text = digits ∨ text = '+' :: digits) ∧ Denotes digits n ∧ n ≤ bound := by
  -- The bound is tested on the value, whatever the number of digits is.
  have reads : read? bound text = some n ↔ Denotes (dropPlus text) n ∧ n ≤ bound := by
    rw [denotes_iff, read?]
    constructor
    · intro read
      split at read
      · rename_i accepted
        obtain rfl := Option.some.inj read
        simpa [and_assoc] using accepted
      · cases read
    · rintro ⟨⟨nonempty, decimal, rfl⟩, small⟩
      rw [if_pos]
      simp only [List.isEmpty_eq_false_iff.mpr nonempty, decimal, small, Bool.not_false,
        decide_true, Bool.and_self]
  rw [reads]
  constructor
  · -- What is read has lost its sign, if it had one.
    rintro ⟨denotes, small⟩
    refine ⟨dropPlus text, ?_, denotes, small⟩
    unfold dropPlus
    split
    · exact .inr rfl
    · exact .inl rfl
  · rintro ⟨digits, rfl | rfl, denotes, small⟩
    · exact ⟨denotes.dropPlus.symm ▸ denotes, small⟩
    · exact ⟨denotes, small⟩

end Numeral
end IdlScout
