import IdlScout.Text.Utf8
import Mathlib.Data.List.Infix

/-! The bytes of a text are read back as the text, and any bytes can be cut at ASCII bytes before
they are read. -/

namespace IdlScout.Utf8

/-! ### Leads and continuations -/

/-- An ASCII byte is a character of its own. -/
theorem enter_ascii {code : Nat} (ascii : code < 128) :
    enter (UInt8.ofNat code) = ([some (Char.ofNat code)], .start) := by
  have checked : ∀ k < 128, enter (UInt8.ofNat k) = ([some (Char.ofNat k)], .start) := by
    decide +kernel
  exact checked code ascii

/-- The lead of two bytes: the two smallest would begin a longer form. -/
theorem enter_two {lead : Nat} (lower : 2 ≤ lead) (upper : lead < 32) :
    enter (UInt8.ofNat (lead + 192)) = ([], .within lead 1 0x80 0xBF) := by
  have checked : ∀ k < 32, 2 ≤ k →
      enter (UInt8.ofNat (k + 192)) = ([], .within k 1 0x80 0xBF) := by decide +kernel
  exact checked lead upper lower

/-- The lead of three bytes: the second avoids longer forms and surrogates. -/
theorem enter_three {lead : Nat} (upper : lead < 16) :
    enter (UInt8.ofNat (lead + 224)) = ([], .within lead 2 (if lead = 0 then 0xA0 else 0x80)
      (if lead = 13 then 0x9F else 0xBF)) := by
  -- There are sixteen such bytes, and all are checked.
  have checked : ∀ k < 16, enter (UInt8.ofNat (k + 224)) =
      ([], .within k 2 (if k = 0 then 0xA0 else 0x80) (if k = 13 then 0x9F else 0xBF)) := by
    decide +kernel
  exact checked lead upper

/-- The lead of four bytes: the second avoids longer forms and what is past the last code point. -/
theorem enter_four {lead : Nat} (upper : lead < 5) :
    enter (UInt8.ofNat (lead + 240)) = ([], .within lead 3 (if lead = 0 then 0x90 else 0x80)
      (if lead = 4 then 0x8F else 0xBF)) := by
  -- The leads are five, for code points end there.
  have checked : ∀ k < 5, enter (UInt8.ofNat (k + 240)) =
      ([], .within k 3 (if k = 0 then 0x90 else 0x80) (if k = 4 then 0x8F else 0xBF)) := by
    decide +kernel
  exact checked lead upper

/-- Six bits as a continuation. -/
theorem toNat_continuation {bits : Nat} (six : bits < 64) :
    (UInt8.ofNat (bits + 128)).toNat = bits + 128 := by
  rw [UInt8.toNat_ofNat']
  omega

/-- A continuation within its bounds adds its six bits. -/
theorem step_continuation {bits : Nat} (six : bits < 64) (sofar missing : Nat) {low high : UInt8}
    (above : low.toNat ≤ bits + 128) (below : bits + 128 ≤ high.toNat) :
    step (.within sofar missing low high) (UInt8.ofNat (bits + 128)) =
      if missing ≤ 1 then ([some (Char.ofNat (sofar * 64 + bits))], .start)
      else ([], .within (sofar * 64 + bits) (missing - 1) 0x80 0xBF) := by
  -- The byte is within the bounds that the lead has set.
  have value := toNat_continuation six
  have within : (low ≤ UInt8.ofNat (bits + 128) && UInt8.ofNat (bits + 128) ≤ high) = true := by
    simp only [Bool.and_eq_true, decide_eq_true_eq, UInt8.le_iff_toNat_le, value]
    exact ⟨above, below⟩
  simp only [step, within, value, Nat.add_sub_cancel, if_true]

/-- Reading goes on from where the first byte leaves the reader. -/
theorem decodeFrom_cons (state : Utf8State) (b : UInt8) (rest : Bytes) :
    decodeFrom state (b :: rest) = (step state b).1 ++ decodeFrom (step state b).2 rest := by
  cases state <;> rfl

/-- The last continuation completes the character. -/
theorem decodeFrom_last {bits : Nat} (six : bits < 64) (sofar : Nat) {low high : UInt8}
    (above : low.toNat ≤ bits + 128) (below : bits + 128 ≤ high.toNat) (rest : Bytes) :
    decodeFrom (.within sofar 1 low high) (UInt8.ofNat (bits + 128) :: rest) =
      some (Char.ofNat (sofar * 64 + bits)) :: decodeFrom .start rest := by
  rw [decodeFrom_cons, step_continuation six sofar 1 above below]
  rfl

/-- Any other continuation leaves one fewer missing. -/
theorem decodeFrom_more {bits : Nat} (six : bits < 64) (sofar missing : Nat) {low high : UInt8}
    (above : low.toNat ≤ bits + 128) (below : bits + 128 ≤ high.toNat) (rest : Bytes) :
    decodeFrom (.within sofar (missing + 2) low high) (UInt8.ofNat (bits + 128) :: rest) =
      decodeFrom (.within (sofar * 64 + bits) (missing + 1) 0x80 0xBF) rest := by
  rw [decodeFrom_cons, step_continuation six sofar (missing + 2) above below]
  rfl

/-! ### Characters and texts -/

/-- The bytes of a character are read as the character, whatever follows them. -/
theorem decodeFrom_encodeChar (c : Char) (rest : Bytes) :
    decodeFrom .start (String.utf8EncodeChar c ++ rest) = some c :: decodeFrom .start rest := by
  have valid : c.toNat < 55296 ∨ 57343 < c.toNat ∧ c.toNat < 1114112 := c.valid
  have whole : Char.ofNat c.toNat = c := Char.ofNat_toNat c
  have value : c.val.toNat = c.toNat := rfl
  generalize c.toNat = v at valid whole value
  simp only [String.utf8EncodeChar, value]
  -- The cases are those of the encoding: one byte to four.
  split
  · -- One byte is the character itself.
    next one =>
    rw [List.singleton_append, decodeFrom_cons]
    simp only [step, enter_ascii (show v < 128 by omega), whole, List.singleton_append]
  split
  · -- Two bytes hold five bits and six.
    next two =>
    rw [List.cons_append, List.singleton_append, decodeFrom_cons]
    simp only [step, enter_two (show 2 ≤ v / 64 % 32 by omega) (Nat.mod_lt _ (by decide))]
    rw [List.nil_append, decodeFrom_last (by omega) _ (by simp) (by simp; omega)]
    have code : v / 64 % 32 * 64 + v % 64 = v := by omega
    rw [code, whole]
  split
  · next three =>
    simp only [List.cons_append, List.nil_append]
    rw [decodeFrom_cons]
    simp only [step, enter_three (show v / 4096 % 16 < 16 by omega)]
    -- Longer forms have no second byte below A0 and surrogates none above 9F.
    have above : (if v / 4096 % 16 = 0 then 0xA0 else 0x80 : UInt8).toNat ≤ v / 64 % 64 + 128 := by
      split <;> simp
      omega
    have below : v / 64 % 64 + 128 ≤ (if v / 4096 % 16 = 13 then 0x9F else 0xBF : UInt8).toNat := by
      split <;> simp <;> omega
    rw [List.nil_append, decodeFrom_more (by omega) _ 0 above below,
      decodeFrom_last (by omega) _ (by simp) (by simp; omega)]
    have code : (v / 4096 % 16 * 64 + v / 64 % 64) * 64 + v % 64 = v := by omega
    rw [code, whole]
  · next four =>
    simp only [List.cons_append, List.nil_append]
    rw [decodeFrom_cons]
    simp only [step, enter_four (show v / 262144 % 8 < 5 by omega)]
    -- Longer forms have no second byte below 90, and no code point has one above 8F.
    have above : (if v / 262144 % 8 = 0 then 0x90 else 0x80 : UInt8).toNat ≤
        v / 4096 % 64 + 128 := by
      split <;> simp
      omega
    have below : v / 4096 % 64 + 128 ≤
        (if v / 262144 % 8 = 4 then 0x8F else 0xBF : UInt8).toNat := by
      split <;> simp <;> omega
    rw [List.nil_append, decodeFrom_more (by omega) _ 1 above below,
      decodeFrom_more (by omega) _ 0 (by simp) (by simp; omega),
      decodeFrom_last (by omega) _ (by simp) (by simp; omega)]
    have code : ((v / 262144 % 8 * 64 + v / 4096 % 64) * 64 + v / 64 % 64) * 64 + v % 64 = v := by
      omega
    rw [code, whole]

/-- The bytes of a text are read as its characters. -/
theorem decodeFrom_encode (text : Text) : decodeFrom .start (encode text) = text.map some := by
  induction text with
  | nil => rfl
  | cons c rest ih =>
    rw [encode, List.flatMap_cons, decodeFrom_encodeChar]
    exact congrArg (some c :: ·) ih

/-- The bytes of a text are read back as the text. -/
theorem decodeLossy_encode (text : Text) : decodeLossy (encode text) = text := by
  rw [decodeLossy, decodeFrom_encode, List.map_map]
  exact List.map_id text

/-! ### Any bytes -/

/-- Inside a character no ASCII byte continues it, and when it is complete it is no ASCII
character. -/
def IsSound : Utf8State → Prop
  | .start => True
  | .within sofar missing low _ => 128 ≤ low.toNat ∧
      (if missing ≤ 1 then 128 else 2) ≤ sofar * 64 + (low.toNat - 128)

instance : DecidablePred IsSound
  | .start => inferInstanceAs (Decidable True)
  | .within .. => inferInstanceAs (Decidable (_ ∧ _))

/-- Between characters nothing is left open. -/
theorem sound_start : IsSound .start := trivial

/-- A byte above ASCII begins a character or is malformed by itself. -/
theorem enter_large {b : UInt8} (large : 128 ≤ b.toNat) : IsSound (enter b).2 ∧
    (enter b = ([none], .start) ∨ (enter b).1 = [] ∧ (enter b).2 ≠ .start) := by
  have checked : ∀ k < 256, 128 ≤ k → IsSound (enter (UInt8.ofNat k)).2 ∧
      (enter (UInt8.ofNat k) = ([none], .start) ∨
        (enter (UInt8.ofNat k)).1 = [] ∧ (enter (UInt8.ofNat k)).2 ≠ .start) := by decide +kernel
  have same := checked b.toNat b.toNat_lt large
  rwa [UInt8.ofNat_toNat] at same

/-- An ASCII byte is a character of its own, and a character that it comes in is malformed. -/
theorem step_ascii {state : Utf8State} (sound : IsSound state) {b : UInt8}
    (ascii : b.toNat < 128) :
    step state b = (decodeFrom state [] ++ [some (Char.ofNat b.toNat)], .start) := by
  have alone : enter b = ([some (Char.ofNat b.toNat)], .start) := by
    have entered := enter_ascii ascii
    rwa [UInt8.ofNat_toNat] at entered
  -- Inside a character the byte is below all continuations, so that the character is broken off.
  cases state with
  | start => exact alone
  | within sofar missing low high =>
    have below : ¬ low ≤ b := by
      rw [UInt8.le_iff_toNat_le]
      exact Nat.not_le.mpr (Nat.lt_of_lt_of_le ascii sound.1)
    simp [step, below, alone, decodeFrom]

/-- The character of a code above ASCII is none of ASCII but, where the code is that of no
character, the null character. -/
theorem toNat_ofNat_of_large {code : Nat} (large : 128 ≤ code) :
    (Char.ofNat code).toNat = 0 ∨ 128 ≤ (Char.ofNat code).toNat := by
  -- Codes between the surrogates and past the last one are no characters.
  by_cases valid : code.isValidChar
  · have same : (Char.ofNat code).toNat = code := by
      rw [Char.ofNat, dif_pos valid]
      rfl
    exact .inr (same.symm ▸ large)
  · exact .inl (by rw [Char.ofNat, dif_neg valid]; rfl)

/-- A byte above ASCII gives no ASCII character but the null character, and something is found at
it, or a character is begun or goes on. -/
theorem step_large {state : Utf8State} (sound : IsSound state) {b : UInt8}
    (large : 128 ≤ b.toNat) : IsSound (step state b).2 ∧
    (∀ c, some c ∈ (step state b).1 → c.toNat = 0 ∨ 128 ≤ c.toNat) ∧
    ((step state b).1 = [] → (step state b).2 ≠ .start) := by
  obtain ⟨next, entered⟩ := enter_large large
  -- At the start the byte is a lead or malformed; inside, it continues, or is taken anew.
  cases state with
  | start =>
    refine ⟨next, ?_⟩
    rcases entered with same | ⟨nothing, inside⟩
    · simp [step, same]
    · simp [step, nothing, inside]
  | within sofar missing low high =>
    obtain ⟨above, least⟩ := sound
    rw [step]
    split
    · rename_i continues
      have value : low.toNat ≤ b.toNat := by
        simp only [Bool.and_eq_true, decide_eq_true_eq, UInt8.le_iff_toNat_le] at continues
        exact continues.1
      dsimp only
      split
      · -- The last byte completes a character that is none of ASCII.
        rename_i last
        rw [if_pos last] at least
        refine ⟨trivial, fun c found => ?_, by simp⟩
        rw [Option.some.inj (List.mem_singleton.mp found)]
        exact toNat_ofNat_of_large (by omega)
      · -- With the two bits that it has at least by now, the next byte makes the character long.
        rename_i more
        rw [if_neg more] at least
        have bits : (0x80 : UInt8).toNat = 128 := rfl
        refine ⟨⟨Nat.le_of_eq bits.symm, ?_⟩, by simp, by simp⟩
        split <;> omega
    · rcases entered with same | ⟨nothing, inside⟩
      · simp [same]; trivial
      · simp [nothing, next]

/-- Where a reader stands after a byte is sound again. -/
theorem sound_step {state : Utf8State} (sound : IsSound state) (b : UInt8) :
    IsSound (step state b).2 := by
  -- The two kinds of bytes were treated above.
  rcases Nat.lt_or_ge b.toNat 128 with ascii | large
  · rw [step_ascii sound ascii]
    trivial
  · exact (step_large sound large).1

/-- Bytes are read up to an ASCII byte as if they ended there, and behind it anew. -/
theorem decodeFrom_append_ascii {state : Utf8State} (sound : IsSound state) (before : Bytes)
    {b : UInt8} (ascii : b.toNat < 128) (after : Bytes) :
    decodeFrom state (before ++ b :: after) =
      decodeFrom state before ++ some (Char.ofNat b.toNat) :: decodeFrom .start after := by
  -- By induction on the bytes before it; at the end the byte is a character of its own.
  induction before generalizing state with
  | nil =>
    rw [List.nil_append, decodeFrom_cons, step_ascii sound ascii, List.append_assoc]
    rfl
  | cons first rest ih =>
    rw [List.cons_append, decodeFrom_cons, ih (sound_step sound first), decodeFrom_cons,
      List.append_assoc]

/-- An ASCII character but the null character is found only where its byte is. -/
theorem mem_of_mem_decodeFrom {state : Utf8State} (sound : IsSound state) {bytes : Bytes} {c : Char}
    (member : some c ∈ decodeFrom state bytes) (nonzero : c.toNat ≠ 0) (ascii : c.toNat < 128) :
    UInt8.ofNat c.toNat ∈ bytes := by
  -- The character comes from the byte at hand or from one behind it.
  induction bytes generalizing state with
  | nil => cases state <;> simp [decodeFrom] at member
  | cons b rest ih =>
    rw [decodeFrom_cons, List.mem_append] at member
    rcases member with here | later
    · refine List.mem_cons.mpr (.inl ?_)
      rcases Nat.lt_or_ge b.toNat 128 with small | large
      · rw [step_ascii sound small, List.mem_append] at here
        have same : c = Char.ofNat b.toNat := by
          rcases here with ended | alone
          · cases state <;> simp [decodeFrom] at ended
          · exact Option.some.inj (List.mem_singleton.mp alone)
        have checked : ∀ code < 128, (Char.ofNat code).toNat = code := by decide +kernel
        rw [same, checked _ small, UInt8.ofNat_toNat]
      · exact absurd ((step_large sound large).2.1 c here) (by omega)
    · exact List.mem_cons_of_mem _ (ih (sound_step sound b) later)

/-- Bytes are never read as nothing. -/
theorem decodeFrom_ne_nil {state : Utf8State} (sound : IsSound state) {bytes : Bytes}
    (nonempty : bytes ≠ []) : decodeFrom state bytes ≠ [] := by
  induction bytes generalizing state with
  | nil => exact absurd rfl nonempty
  | cons b rest ih =>
    rw [decodeFrom_cons]
    intro empty
    obtain ⟨nothing, later⟩ := List.append_eq_nil_iff.mp empty
    rcases Nat.lt_or_ge b.toNat 128 with small | large
    · rw [step_ascii sound small] at nothing
      simp at nothing
    · -- Where nothing is found yet, a character is still open.
      have isOpen := (step_large sound large).2.2 nothing
      cases rest with
      | nil =>
        cases inside : (step state b).2 with
        | start => exact isOpen inside
        | within => simp [inside, decodeFrom] at later
      | cons next more => exact ih (sound_step sound b) (by simp) later

/-- An ASCII character but the null character is found last only where its byte is last. -/
theorem getLast?_of_decodeFrom {state : Utf8State} (sound : IsSound state) {bytes : Bytes}
    {c : Char} (last : (decodeFrom state bytes).getLast? = some (some c)) (nonzero : c.toNat ≠ 0)
    (ascii : c.toNat < 128) : bytes.getLast? = some (UInt8.ofNat c.toNat) := by
  induction bytes generalizing state with
  | nil => cases state <;> simp [decodeFrom] at last
  | cons b rest ih =>
    cases rest with
    | nil =>
      have inside := mem_of_mem_decodeFrom sound (List.mem_of_getLast? last) nonzero ascii
      rw [List.mem_singleton.mp inside]
      rfl
    | cons next more =>
      have later := decodeFrom_ne_nil (sound_step sound b) (List.cons_ne_nil next more)
      rw [decodeFrom_cons, List.getLast?_append_of_ne_nil _ later] at last
      rw [List.getLast?_cons_cons]
      exact ih (sound_step sound b) last

/-- A text is read up to an ASCII byte as if the bytes ended there, and behind it anew. -/
theorem decodeLossy_append_ascii (before : Bytes) {b : UInt8} (ascii : b.toNat < 128)
    (after : Bytes) : decodeLossy (before ++ b :: after) =
      decodeLossy before ++ Char.ofNat b.toNat :: decodeLossy after := by
  simp [decodeLossy, decodeFrom_append_ascii sound_start before ascii after]

/-- An ASCII character but the null character is in a text only where its byte is. -/
theorem mem_of_mem_decodeLossy {bytes : Bytes} {c : Char} (member : c ∈ decodeLossy bytes)
    (nonzero : c.toNat ≠ 0) (ascii : c.toNat < 128) : UInt8.ofNat c.toNat ∈ bytes := by
  obtain ⟨found, listed, same⟩ := List.mem_map.mp member
  cases found with
  | none =>
    obtain rfl : replacement = c := same
    exact absurd ascii (by decide)
  | some d =>
    obtain rfl : d = c := same
    exact mem_of_mem_decodeFrom sound_start listed nonzero ascii

/-- An ASCII character but the null character is the last of a text only where its byte is last. -/
theorem getLast?_of_decodeLossy {bytes : Bytes} {c : Char}
    (last : (decodeLossy bytes).getLast? = some c) (nonzero : c.toNat ≠ 0)
    (ascii : c.toNat < 128) : bytes.getLast? = some (UInt8.ofNat c.toNat) := by
  rw [decodeLossy, List.getLast?_map, Option.map_eq_some_iff] at last
  obtain ⟨found, last, same⟩ := last
  cases found with
  | none =>
    obtain rfl : replacement = c := same
    exact absurd ascii (by decide)
  | some d =>
    obtain rfl : d = c := same
    exact getLast?_of_decodeFrom sound_start last nonzero ascii

/-- Only no bytes are read as the empty text. -/
theorem decodeLossy_eq_nil_iff {bytes : Bytes} : decodeLossy bytes = [] ↔ bytes = [] := by
  refine ⟨fun empty => ?_, fun same => by rw [same]; rfl⟩
  cases bytes with
  | nil => rfl
  | cons b rest =>
    exact absurd (List.map_eq_nil_iff.mp empty) (decodeFrom_ne_nil sound_start (by simp))

end IdlScout.Utf8
