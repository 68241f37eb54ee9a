import IdlScout.Proofs.Text.NameMap
import IdlScout.Text.Utf8
import Mathlib.Tactic.SplitIfs

/-! The order of texts is that of their bytes in UTF-8. -/

namespace IdlScout
namespace Utf8

/-- Runs of bytes are ordered by their first bytes, or by what follows where these are the same. -/
theorem cons_lt_cons {a b : Nat} (least : a ≤ b) (byte : b < 256) {before after : Bytes}
    (follow : a = b → before < after) :
    UInt8.ofNat a :: before < UInt8.ofNat b :: after := by
  rw [List.cons_lt_cons_iff]
  rcases Nat.lt_or_eq_of_le least with less | same
  · -- Numbers below 256 are bytes as they are.
    refine .inl ?_
    rw [UInt8.lt_iff_toNat_lt, UInt8.toNat_ofNat', UInt8.toNat_ofNat']
    omega
  · exact .inr ⟨by rw [same], follow same⟩

/-- The bytes of a character stand before those of a greater one, whatever follows them. -/
theorem encodeChar_append_lt {c d : Char} (less : c < d) (before after : Bytes) :
    String.utf8EncodeChar c ++ before < String.utf8EncodeChar d ++ after := by
  have ordered : c.val.toNat < d.val.toNat := less
  have bounded : d.val.toNat < 1114112 := by
    have valid := d.valid
    simp only [UInt32.isValidChar, Nat.isValidChar] at valid
    omega
  generalize first : c.val.toNat = v at ordered
  generalize second : d.val.toNat = w at ordered bounded
  simp only [String.utf8EncodeChar, first, second]
  -- The cases are those of the encoding, for each of the two characters.
  split_ifs
  all_goals
    simp only [List.cons_append, List.nil_append]
    -- Either the leads differ, as the greater character has more bytes, or all digits are compared,
    -- and they cannot all be the same.
    repeat refine cons_lt_cons (by omega) (by omega) fun same => ?_
    omega

/-- The bytes of a text stand before those of a greater one. -/
theorem encode_lt_of_lt {a b : Text} (less : a < b) : encode a < encode b := by
  induction a generalizing b with
  | nil =>
    cases b with
    | nil => exact absurd less (List.lt_irrefl _)
    | cons d more =>
      -- No character is encoded as nothing.
      obtain ⟨byte, others, shape⟩ :=
        List.exists_cons_of_ne_nil (String.utf8EncodeChar_ne_nil (c := d))
      rw [encode, encode, List.flatMap_cons, shape]
      exact List.nil_lt_cons _ _
  | cons c rest ih =>
    cases b with
    | nil => exact absurd less (List.not_lt_nil _)
    | cons d more =>
      rw [encode, encode, List.flatMap_cons, List.flatMap_cons]
      rcases List.cons_lt_cons_iff.mp less with before | ⟨rfl, later⟩
      · exact encodeChar_append_lt before _ _
      · -- What the texts begin with alike is encoded alike.
        exact List.append_left_lt (ih later)

end Utf8
end IdlScout
