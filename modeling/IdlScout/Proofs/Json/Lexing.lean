import IdlScout.Proofs.Json.Grammar
import IdlScout.Proofs.Text.Cut

/-! Every spelling of a value is read as the tokens of the value: no blank, escape or digit between
them changes any. -/

namespace IdlScout
namespace Json

/-- A text is read as some tokens, with any budget that its length allows. -/
def Lexes (text : Text) (read : List Token) : Prop :=
  ∀ fuel, text.length ≤ fuel → tokensWithin fuel text = read

/-- Wherever a piece of text stands, it is read as some tokens before what follows it. -/
def Prints (piece : Text) (read : List Token) : Prop :=
  ∀ rest more, Lexes rest more → Lexes (piece ++ rest) (read ++ more)

/-- One piece after the other is read as the tokens of one after those of the other. -/
theorem Prints.append {first second : Text} {one two : List Token} (before : Prints first one)
    (after : Prints second two) : Prints (first ++ second) (one ++ two) := by
  intro rest more lexes
  rw [List.append_assoc, List.append_assoc]
  exact before _ _ (after _ _ lexes)

/-- A piece that starts with no blank is read as a token, if that takes all of it. -/
theorem prints_token (c : Char) (piece : Text) {first : Token} (solid : isSpace c = false)
    (taken : ∀ rest, token c (piece ++ rest) = (first, rest)) : Prints (c :: piece) [first] := by
  intro rest more lexes fuel enough
  cases fuel with
  | zero => simp at enough
  | succ fuel =>
    -- The budget left is enough for the rest, which is shorter.
    have left : rest.length ≤ fuel := by
      simp only [List.cons_append, List.length_cons, List.length_append] at enough
      omega
    simp [tokensWithin, solid, taken, lexes fuel left]

/-- A sign by itself is a token. -/
theorem prints_sign (c : Char) {first : Token} (solid : isSpace c = false)
    (taken : ∀ rest, token c rest = (first, rest)) : Prints [c] [first] :=
  prints_token c [] solid taken

/-- Blanks are read as nothing. -/
theorem prints_blank (blank : Text) (spaces : ∀ c ∈ blank, isSpace c = true) : Prints blank [] := by
  -- A blank costs budget although it is read as nothing.
  intro rest more lexes
  induction blank with
  | nil => exact lexes
  | cons c others ih =>
    obtain ⟨space, spaces⟩ := List.forall_mem_cons.mp spaces
    intro fuel enough
    cases fuel with
    | zero => simp at enough
    | succ fuel =>
      have left : (others ++ rest).length ≤ fuel := by simpa using enough
      simpa [tokensWithin, space] using ih spaces fuel left

/-! Numbers: a numeral is read up to its end, if nothing behind it could belong to it. -/

/-- Nothing at the start of a text could continue a numeral. -/
def Ends (rest : Text) : Prop :=
  ∀ c ∈ rest.head?, isAsciiDigit c = false ∧ c ≠ '.' ∧ c ≠ 'e' ∧ c ≠ 'E'

/-- A blank is no part of a numeral. -/
theorem ends_of_isSpace {c : Char} (space : isSpace c = true) (rest : Text) : Ends (c :: rest) := by
  have cases : ((c = ' ' ∨ c = '\n') ∨ c = '\t') ∨ c = '\r' := by simpa [isSpace] using space
  rintro d ⟨⟩
  rcases cases with ((rfl | rfl) | rfl) | rfl <;> decide

/-- Digits are taken up to what is none. -/
theorem AreDigits.span {digits : Text} (decimal : AreDigits digits) (rest : Text)
    (ends : ∀ c ∈ rest.head?, isAsciiDigit c = false) :
    (digits ++ rest).takeWhile isAsciiDigit = digits ∧
      (digits ++ rest).dropWhile isAsciiDigit = rest := by
  rw [List.takeWhile_append_of_pos decimal.decimal, List.dropWhile_append_of_pos decimal.decimal]
  -- What follows starts with no digit, or there is nothing.
  cases rest with
  | nil => simp
  | cons c more => simp [ends c rfl]

/-- Digits begin with a digit. -/
theorem AreDigits.exists_cons {digits : Text} (decimal : AreDigits digits) :
    ∃ c rest, digits = c :: rest ∧ isAsciiDigit c = true := by
  obtain ⟨c, rest, rfl⟩ := List.exists_cons_of_ne_nil decimal.nonempty
  exact ⟨c, rest, rfl, decimal.decimal c List.mem_cons_self⟩

/-- The whole part of a number begins with a digit. -/
theorem IsWhole.exists_cons {whole : Text} (is : IsWhole whole) :
    ∃ c rest, whole = c :: rest ∧ isAsciiDigit c = true := by
  cases is with
  | zero => exact ⟨'0', [], rfl, by decide⟩
  | digits decimal => exact decimal.exists_cons

/-- An exponent is read up to its end. -/
theorem IsExponent.numberExponent {exponent : Text} (is : IsExponent exponent)
    (digits places : Nat) :
    ∃ tooLarge, ∀ rest, Ends rest →
      Json.numberExponent digits places (exponent ++ rest) = (.complete tooLarge, rest) := by
  cases is with
  | none =>
    refine ⟨Numeral.isTooLarge digits (-places), fun rest ends => ?_⟩
    cases rest with
    | nil => rfl
    | cons c more =>
      obtain ⟨-, -, small, capital⟩ := ends c rfl
      simp [Json.numberExponent, small, capital]
  | @power mark sign written marked signed decimal =>
    obtain ⟨c, others, rfl, digit⟩ := decimal.exists_cons
    -- The first digit is not taken for a sign.
    have noPlus : c ≠ '+' := by rintro rfl; simp [isAsciiDigit] at digit
    have noMinus : c ≠ '-' := by rintro rfl; simp [isAsciiDigit] at digit
    let power : Int := Numeral.value (c :: others)
    refine ⟨Numeral.isTooLarge digits ((if sign = ['-'] then -power else power) - places),
      fun rest ends => ?_⟩
    obtain ⟨takes, drops⟩ := decimal.span rest fun c first => (ends c first).1
    rw [List.cons_append] at takes drops
    -- There is no sign, a plus or a minus.
    rcases signed with rfl | rfl | rfl <;>
      simp [Json.numberExponent, marked, takes, drops, noPlus, noMinus, power]

/-- A fraction and an exponent are read up to their end. -/
theorem IsFraction.numberFraction {fraction exponent : Text} (is : IsFraction fraction)
    (isExponent : IsExponent exponent) (whole : Text) :
    ∃ tooLarge, ∀ rest, Ends rest →
      Json.numberFraction whole (fraction ++ exponent ++ rest) = (.complete tooLarge, rest) := by
  -- No exponent begins as a fraction, nor does it go on with digits of one.
  have apart (rest : Text) (ends : Ends rest) :
      ∀ c ∈ (exponent ++ rest).head?, c ≠ '.' ∧ isAsciiDigit c = false := by
    cases isExponent with
    | none => exact fun c first => ⟨(ends c first).2.1, (ends c first).1⟩
    | power marked => rcases marked with rfl | rfl <;> simp [isAsciiDigit]
  -- Without a fraction the reader goes on to the exponent; with one it first takes the places.
  cases is with
  | none =>
    obtain ⟨tooLarge, read⟩ := isExponent.numberExponent (Numeral.value whole) 0
    refine ⟨tooLarge, fun rest ends => ?_⟩
    have noPoint := apart rest ends
    rw [List.nil_append, ← read rest ends, Json.numberFraction]
    intro after same
    rw [same] at noPoint
    exact (noPoint '.' rfl).1 rfl
  | @places digits decimal =>
    obtain ⟨tooLarge, read⟩ :=
      isExponent.numberExponent (Numeral.value (whole ++ digits)) digits.length
    refine ⟨tooLarge, fun rest ends => ?_⟩
    obtain ⟨takes, drops⟩ :=
      decimal.span (exponent ++ rest) fun c first => (apart rest ends c first).2
    obtain ⟨c, others, rfl, -⟩ := decimal.exists_cons
    rw [← read rest ends, List.append_assoc, List.cons_append]
    simp only [Json.numberFraction, takes, drops]

/-- A numeral without its sign is read up to its end. -/
theorem IsWhole.numberBody {whole fraction exponent : Text} (is : IsWhole whole)
    (isFraction : IsFraction fraction) (isExponent : IsExponent exponent) :
    ∃ tooLarge, ∀ rest, Ends rest →
      Json.numberBody (whole ++ (fraction ++ exponent) ++ rest) = (.complete tooLarge, rest) := by
  obtain ⟨tooLarge, read⟩ := isFraction.numberFraction isExponent whole
  refine ⟨tooLarge, fun rest ends => ?_⟩
  -- What is behind the whole part does not go on with its digits.
  have apart : ∀ c ∈ (fraction ++ exponent ++ rest).head?, isAsciiDigit c = false := by
    cases isFraction with
    | places => simp [isAsciiDigit]
    | none =>
      cases isExponent with
      | none => exact fun c first => (ends c first).1
      | power marked => rcases marked with rfl | rfl <;> simp [isAsciiDigit]
  rw [← read rest ends, List.append_assoc]
  cases is with
  | zero =>
    -- Behind a leading zero a digit would be a fault.
    cases behind : fraction ++ exponent ++ rest with
    | nil => rfl
    | cons c more =>
      have noDigit := apart c (by simp [behind])
      simp [Json.numberBody, noDigit]
  | digits decimal leads =>
    obtain ⟨takes, drops⟩ := decimal.span _ apart
    obtain ⟨c, others, rfl, digit⟩ := decimal.exists_cons
    have noZero : c ≠ '0' := fun same => leads (by simp [same])
    rw [List.cons_append] at takes drops ⊢
    simp only [Json.numberBody, digit, if_true, takes, drops]

/-- A digit begins a numeral, and is no blank. -/
theorem token_of_digit {c : Char} (digit : isAsciiDigit c = true) (rest : Text) :
    isSpace c = false ∧
      token c rest = (.number (numberBody (c :: rest)).1, (numberBody (c :: rest)).2) := by
  have other (d : Char) (none : isAsciiDigit d = false) : c ≠ d := by
    rintro rfl
    rw [digit] at none
    cases none
  -- Blanks and numerals have no first character in common.
  constructor
  · have others := And.intro (other ' ' rfl) (And.intro (other '\n' rfl)
      (And.intro (other '\t' rfl) (other '\r' rfl)))
    simpa [isSpace, and_assoc] using others
  · unfold token
    -- Every other token begins with a character that is no digit.
    split
    case h_12 => simp [digit]
    all_goals exact absurd rfl (other _ rfl)

/-- A numeral with its sign is one token, up to its end. -/
theorem IsNumeral.token {numeral : Text} (is : IsNumeral numeral) :
    ∃ c digits tooLarge, numeral = c :: digits ∧ isSpace c = false ∧
      ∀ rest, Ends rest →
        Json.token c (digits ++ rest) = (.number (.complete tooLarge), rest) := by
  obtain ⟨signed, isWhole, isFraction, isExponent⟩ := is
  rename_i sign whole fraction exponent
  -- The body is read up to its end, whatever the sign before it was.
  obtain ⟨tooLarge, read⟩ := isWhole.numberBody isFraction isExponent
  rcases signed with rfl | rfl
  · -- Without a sign the first digit decides that it is a number.
    obtain ⟨c, others, same, digit⟩ := isWhole.exists_cons
    refine ⟨c, others ++ (fraction ++ exponent), tooLarge, by rw [same]; rfl,
      (token_of_digit digit []).1, fun rest ends => ?_⟩
    have body := read rest ends
    rw [same, List.cons_append, List.cons_append] at body
    rw [(token_of_digit digit _).2, body]
  · refine ⟨'-', whole ++ (fraction ++ exponent), tooLarge, rfl, by decide, fun rest ends => ?_⟩
    simp only [Json.token, read rest ends]

/-! Values: every spelling is read as the tokens of its value. -/

/-- Wherever a piece of text stands before nothing that could continue a numeral, it is read as some
tokens before what follows it. -/
def PrintsApart (piece : Text) (read : List Token) : Prop :=
  ∀ rest more, Ends rest → Lexes rest more → Lexes (piece ++ rest) (read ++ more)

/-- A piece that is read so anywhere is read so where nothing continues a numeral. -/
theorem Prints.apart {piece : Text} {read : List Token} (prints : Prints piece read) :
    PrintsApart piece read :=
  fun rest more _ lexes => prints rest more lexes

/-- Before something that is part of no numeral, a piece is read as its tokens. -/
theorem PrintsApart.append {piece rest : Text} {read more : List Token}
    (apart : PrintsApart piece read) (ends : Ends rest) (nonempty : rest ≠ [])
    (prints : Prints rest more) : Prints (piece ++ rest) (read ++ more) := by
  -- What follows is not empty, so a numeral at the end of the piece is not read on.
  obtain ⟨c, others, rfl⟩ := List.exists_cons_of_ne_nil nonempty
  intro behind tokens lexes
  rw [List.append_assoc, List.append_assoc]
  exact apart _ _ ends (prints behind tokens lexes)

/-- A text that is read apart, with nothing behind it, is read as its tokens. -/
theorem PrintsApart.tokens {text : Text} {read : List Token} (apart : PrintsApart text read) :
    tokens text = read := by
  have whole := apart [] [] (fun c first => by cases first) fun fuel _ => by cases fuel <;> rfl
  rw [List.append_nil, List.append_nil] at whole
  exact whole text.length (Nat.le_refl _)

/-- A numeral is read as its token. -/
theorem IsNumeral.printsApart {numeral : Text} (is : IsNumeral numeral) :
    PrintsApart numeral [numeralToken numeral] := by
  obtain ⟨c, digits, tooLarge, rfl, solid, taken⟩ := is.token
  have apart : PrintsApart (c :: digits) [.number (.complete tooLarge)] := by
    intro rest more ends lexes fuel enough
    -- The numeral takes one step, which leaves fuel for all that follows it.
    cases fuel with
    | zero => simp at enough
    | succ fuel =>
      have left : rest.length ≤ fuel := by
        simp only [List.cons_append, List.length_cons, List.length_append] at enough
        omega
      simp [tokensWithin, solid, taken rest ends, lexes fuel left]
  -- Its token is by definition what it is read as alone.
  have same : numeralToken (c :: digits) = .number (.complete tooLarge) := by
    rw [numeralToken, apart.tokens]
    cases tooLarge <;> rfl
  rwa [same]

/-- A word is read as its token. -/
theorem prints_word (word : Word) : Prints word.letters [.word word none] := by
  -- The letters of each word but the first are checked together.
  cases word
  · exact prints_token 'n' "ull".toList (by decide) fun rest => by
      simp [token, token.ofWord, wordEnd]
  · exact prints_token 't' "rue".toList (by decide) fun rest => by
      simp [token, token.ofWord, wordEnd]
  · exact prints_token 'f' "alse".toList (by decide) fun rest => by
      simp [token, token.ofWord, wordEnd]

/-- Units between quotes are one token. -/
theorem AreSpelled.prints {units : List StringUnit} {text : Text}
    (spelled : AreSpelled units text) :
    Prints ('"' :: (text ++ ['"'])) [.string units none] := by
  refine prints_token '"' (text ++ ['"']) (by decide) fun rest => ?_
  rw [List.append_assoc, List.singleton_append]
  simp [token, spelled.stringUnits]

/-- Blanks and a sign that is part of no numeral are part of none. -/
theorem ends_blank {blank : Text} (blanks : IsBlank blank) {rest : Text} (ends : Ends rest) :
    Ends (blank ++ rest) := by
  cases blank with
  | nil => exact ends
  | cons c others => exact ends_of_isSpace (blanks c List.mem_cons_self) _

/-- Behind the first of some pieces, each other is read behind a comma, up to what closes them. -/
theorem prints_others {α : Type} {pieces : List α} {print : α → Text} {read : α → List Token}
    {closing : Text} {closed : Token} (ends : Ends closing) (nonempty : closing ≠ [])
    (closes : Prints closing [closed])
    (each : ∀ piece ∈ pieces, PrintsApart (print piece) (read piece)) :
    Ends ((pieces.map print).flatMap (',' :: ·) ++ closing) ∧
      Prints ((pieces.map print).flatMap (',' :: ·) ++ closing)
        ((pieces.map read).flatMap (.comma :: ·) ++ [closed]) := by
  -- A comma ends a numeral too, so the piece before it may be one.
  induction pieces with
  | nil => exact ⟨ends, closes⟩
  | cons piece more ih =>
    obtain ⟨first, others⟩ := List.forall_mem_cons.mp each
    obtain ⟨ends, prints⟩ := ih others
    have comma : Prints [','] [.comma] := prints_sign ',' (by decide) fun _ => rfl
    have whole := comma.append (first.append ends (by simp [nonempty]) prints)
    refine ⟨by simp [Ends, isAsciiDigit], ?_⟩
    simpa only [List.map_cons, List.flatMap_cons, List.append_assoc, List.cons_append,
      List.nil_append] using whole

/-- Pieces with commas between them are read between the tokens of their brackets. -/
theorem prints_enclosed {α : Type} {pieces : List α} {print : α → Text} {read : α → List Token}
    {opening : Char} {closing : Text} {opened closed : Token} (opens : Prints [opening] [opened])
    (ends : Ends closing) (nonempty : closing ≠ []) (closes : Prints closing [closed])
    (each : ∀ piece ∈ pieces, PrintsApart (print piece) (read piece)) :
    Prints (opening :: (Text.join [','] (pieces.map print) ++ closing))
      (opened :: (commaSeparated (pieces.map read) ++ [closed])) := by
  -- Behind the first piece each piece brings a comma with it.
  cases pieces with
  | nil => exact opens.append closes
  | cons piece more =>
    obtain ⟨first, others⟩ := List.forall_mem_cons.mp each
    obtain ⟨ends, prints⟩ := prints_others ends nonempty closes others
    have whole := opens.append (first.append ends (by simp [nonempty]) prints)
    simpa only [List.map_cons, Text.join_eq_flatMap, commaSeparated, List.append_assoc,
      List.cons_append, List.nil_append] using whole

/-- However a value is spelled, it is read as its tokens. -/
theorem Holds.printsApart {text : Text} {value : Value} (held : Holds text value) :
    PrintsApart text value.tokens := by
  -- By induction on the spelling; whatever follows it is left open.
  induction held with
  | word written => exact (prints_word written).apart
  | number written => exact written.printsApart
  | string spelled => exact spelled.prints.apart
  | list _ blanks ih =>
    have opens : Prints ['['] [.openList] := prints_sign '[' (by decide) fun _ => rfl
    have closes : Prints [']'] [.closeList] := prints_sign ']' (by decide) fun _ => rfl
    have whole := prints_enclosed opens (ends_blank blanks (by simp [Ends, isAsciiDigit])) (by simp)
      ((prints_blank _ blanks).append closes) ih
    rw [Value.tokens, Value.itemTokens_eq_map, List.map_map]
    exact whole.apart
  | @object members blank _ _ blanks keyed held =>
    have opens : Prints ['\x7b'] [.openObject] := prints_sign '\x7b' (by decide) fun _ => rfl
    have closes : Prints ['\x7d'] [.closeObject] := prints_sign '\x7d' (by decide) fun _ => rfl
    have colon : Prints [':'] [.colon] := prints_sign ':' (by decide) fun _ => rfl
    -- A member is its key, a colon and its value.
    have each : ∀ member ∈ members, PrintsApart (member.1.1 ++ ':' :: member.2.1)
        (.string member.1.2 none :: .colon :: member.2.2.tokens) := by
      intro member listed rest more ends lexes
      have behind := colon _ _ (held member listed rest more ends lexes)
      have whole := keyed member listed _ _ (by simp [Ends, isAsciiDigit]) behind
      simpa only [Value.tokens, List.append_assoc, List.cons_append, List.nil_append] using whole
    have whole := prints_enclosed opens (ends_blank blanks (by simp [Ends, isAsciiDigit])) (by simp)
      ((prints_blank _ blanks).append closes) each
    rw [Value.tokens, Value.memberTokens_eq_map, List.map_map]
    exact whole.apart
  -- Blanks before a value are read as nothing, and those behind it belong to what follows.
  | before blanks _ ih =>
    intro rest more ends lexes
    rw [List.append_assoc]
    exact prints_blank _ blanks _ _ (ih rest more ends lexes)
  | behind blanks _ ih =>
    intro rest more ends lexes
    rw [List.append_assoc]
    exact ih _ _ (ends_blank blanks ends) (prints_blank _ blanks rest more lexes)

/-- However a value is spelled, its text has the tokens of the value. -/
theorem Holds.tokens {text : Text} {value : Value} (held : Holds text value) :
    Json.tokens text = value.tokens :=
  held.printsApart.tokens

end Json
end IdlScout
