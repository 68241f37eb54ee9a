import IdlScout.Text.Blank
import IdlScout.Text.Numeral

/-! Arithmetic of the command language, on whole numbers of 64 bits. -/

namespace IdlScout
namespace Shell

/-- Operators of two operands. -/
inductive Operator where
  | bitOr
  | bitXor
  | bitAnd
  | equal
  | unequal
  | atMost
  | atLeast
  | less
  | greater
  | shiftLeft
  | shiftRight
  | plus
  | minus
  | times
  | divide
  | remainder
  deriving Repr, DecidableEq

/-- Operators of one operand. -/
inductive Sign where
  | minus
  | complement
  | isZero
  deriving Repr, DecidableEq

/-- An expression. -/
inductive Sum where
  | number (value : Int64)
  | name (word : Text)
  | signed (sign : Sign) (body : Sum)
  | operation (op : Operator) (first second : Sum)
  | both (first second : Sum)
  | either (first second : Sum)
  | choice (condition body otherwise : Sum)
  /-- A variable is set, to the result of an operator on its value if there is one. -/
  | assignment (word : Text) (op : Option Operator) (value : Sum)
  deriving Repr

/-- Why an expression has no value. -/
inductive SumFault where
  | noOperand
  | notAtEnd
  | noColon
  | noBracket
  | byZero
  | noNumber (text : Text)
  deriving Repr, DecidableEq

/-- The wording of a fault in an expression. -/
def SumFault.message (expression : Text) : SumFault → Text
  | .noNumber text => "Illegal number: ".toList ++ text
  | .noOperand => wording "expecting primary"
  | .notAtEnd => wording "expecting EOF"
  | .noColon => wording "expecting ':'"
  | .noBracket => wording "expecting ')'"
  | .byZero => wording "division by zero"
where
  /-- The complaint with the expression. -/
  wording (complaint : String) : Text :=
    "arithmetic expression: ".toList ++ complaint.toList ++ ": \"".toList ++ expression ++ ['"']

/-- A piece of an expression. -/
inductive Lexeme where
  | number (value : Nat)
  | name (text : Text)
  | op (text : Text)
  deriving Repr, DecidableEq

/-- Operators of two operands, the loosest first. -/
def operatorLevels : List (List (Text × Operator)) :=
  [[("|".toList, .bitOr)], [("^".toList, .bitXor)], [("&".toList, .bitAnd)],
    [("==".toList, .equal), ("!=".toList, .unequal)],
    [("<=".toList, .atMost), (">=".toList, .atLeast), ("<".toList, .less),
      (">".toList, .greater)],
    [("<<".toList, .shiftLeft), (">>".toList, .shiftRight)],
    [("+".toList, .plus), ("-".toList, .minus)],
    [("*".toList, .times), ("/".toList, .divide), ("%".toList, .remainder)]]

/-- Operators that set a variable. -/
def assignments : List (Text × Option Operator) :=
  [("=".toList, none), ("<<=".toList, some .shiftLeft), (">>=".toList, some .shiftRight),
    ("+=".toList, some .plus), ("-=".toList, some .minus), ("*=".toList, some .times),
    ("/=".toList, some .divide), ("%=".toList, some .remainder), ("&=".toList, some .bitAnd),
    ("^=".toList, some .bitXor), ("|=".toList, some .bitOr)]

/-- All operators and brackets, the longer ones first. -/
def operators : List Text :=
  let all := ["||".toList, "&&".toList, "!".toList, "~".toList, "?".toList, ":".toList,
    "(".toList, ")".toList] ++ assignments.map Prod.fst ++
    (operatorLevels.flatten).map Prod.fst
  [3, 2, 1].flatMap fun size => all.filter (·.length == size)

/-- A digit with base eight. -/
def isOctal (c : Char) : Bool :=
  '0' ≤ c && c ≤ '7'

/-- A hexadecimal digit. -/
def isHex (c : Char) : Bool :=
  (Numeral.hexDigit? c).isSome

/-- A numeral at the start of a text, and what follows it: after `0x` with base sixteen, after
another zero with base eight. -/
def numeral? (text : Text) : Option (Nat × Text) :=
  let decimal := (Numeral.value (text.takeWhile isAsciiDigit), text.dropWhile isAsciiDigit)
  match text with
  | '0' :: 'x' :: digits | '0' :: 'X' :: digits =>
    -- Without digits after it, the letter is no part of the numeral.
    if digits.head?.any isHex then
      some ((Numeral.hexValue? (digits.takeWhile isHex)).getD 0, digits.dropWhile isHex)
    else some (0, text.drop 1)
  | '0' :: _ =>
    some ((text.takeWhile isOctal).foldl (fun sum c => 8 * sum + Numeral.digit c) 0,
      text.dropWhile isOctal)
  | c :: _ => if isAsciiDigit c then some decimal else none
  | [] => none

/-- The pieces of an expression; a character that belongs to none is one by itself. The first
argument bounds their number. -/
def lexemes : Nat → Text → List Lexeme
  | 0, _ => []
  | _, [] => []
  | steps + 1, c :: rest =>
    if isBlank c then lexemes steps rest
    else
      match numeral? (c :: rest) with
      | some (n, after) => .number n :: lexemes steps after
      | none =>
        if isIdentifierChar c then
          .name ((c :: rest).takeWhile isIdentifierChar) ::
            lexemes steps ((c :: rest).dropWhile isIdentifierChar)
        else
          let op := (operators.find? (·.isPrefixOf (c :: rest))).getD [c]
          .op op :: lexemes steps ((c :: rest).drop op.length)

/-- The largest number. -/
def largest : Nat := 9223372036854775807

/-- A number of 64 bits; a larger one gives way to the largest. -/
def ofNatural (n : Nat) : Int64 :=
  Int64.ofNat (min n largest)

mutual

/-- An operand: a number, a name, an expression in brackets, or one with a sign. -/
def operand : Nat → List Lexeme → Except SumFault (Sum × List Lexeme)
  | 0, _ => .error .noOperand
  | steps + 1, pieces =>
    match pieces with
    | .number n :: rest => .ok (.number (ofNatural n), rest)
    | .name name :: rest => .ok (.name name, rest)
    | .op ['('] :: rest => do
      match ← whole steps rest with
      | (sum, .op [')'] :: after) => return (sum, after)
      | _ => throw .noBracket
    | .op ['+'] :: rest => operand steps rest
    | .op ['-'] :: rest => do
      let (sum, after) ← operand steps rest
      return (.signed .minus sum, after)
    | .op ['!'] :: rest => do
      let (sum, after) ← operand steps rest
      return (.signed .isZero sum, after)
    | .op ['~'] :: rest => do
      let (sum, after) ← operand steps rest
      return (.signed .complement sum, after)
    | _ => .error .noOperand

/-- An expression of operators of certain levels. -/
def level : Nat → List (List (Text × Operator)) → List Lexeme →
    Except SumFault (Sum × List Lexeme)
  | 0, _, _ => .error .noOperand
  | steps + 1, [], pieces => operand steps pieces
  | steps + 1, ops :: tighter, pieces => do
    let (first, rest) ← level steps tighter pieces
    operands steps ops tighter first rest

/-- Further operands of one level, from the left. -/
def operands : Nat → List (Text × Operator) → List (List (Text × Operator)) → Sum →
    List Lexeme → Except SumFault (Sum × List Lexeme)
  | 0, _, _, _, _ => .error .noOperand
  | steps + 1, ops, tighter, first, pieces =>
    match pieces with
    | .op text :: rest =>
      match ops.lookup text with
      | some op => do
        let (second, after) ← level steps tighter rest
        operands steps ops tighter (.operation op first second) after
      | none => .ok (first, pieces)
    | _ => .ok (first, pieces)

/-- Expressions that must all hold. -/
def allOf : Nat → List Lexeme → Except SumFault (Sum × List Lexeme)
  | 0, _ => .error .noOperand
  | steps + 1, pieces => do
    match ← level steps operatorLevels pieces with
    | (first, .op ['&', '&'] :: rest) =>
      let (second, after) ← allOf steps rest
      return (.both first second, after)
    | found => return found

/-- Expressions one of which must hold. -/
def anyOf : Nat → List Lexeme → Except SumFault (Sum × List Lexeme)
  | 0, _ => .error .noOperand
  | steps + 1, pieces => do
    match ← allOf steps pieces with
    | (first, .op ['|', '|'] :: rest) =>
      let (second, after) ← anyOf steps rest
      return (.either first second, after)
    | found => return found

/-- An expression, or a choice between two. -/
def chosen : Nat → List Lexeme → Except SumFault (Sum × List Lexeme)
  | 0, _ => .error .noOperand
  | steps + 1, pieces => do
    match ← anyOf steps pieces with
    | (condition, .op ['?'] :: rest) =>
      match ← whole steps rest with
      | (body, .op [':'] :: rest) =>
        let (otherwise, after) ← chosen steps rest
        return (.choice condition body otherwise, after)
      | _ => throw .noColon
    | found => return found

/-- An expression that may set a variable. -/
def whole : Nat → List Lexeme → Except SumFault (Sum × List Lexeme)
  | 0, _ => .error .noOperand
  | steps + 1, pieces =>
    match pieces with
    | .name name :: .op text :: rest =>
      match assignments.lookup text with
      | some op => do
        let (value, after) ← whole steps rest
        return (.assignment name op value, after)
      | none => chosen steps pieces
    | _ => chosen steps pieces

end

/-- The expression that a text holds. -/
def Sum.read (text : Text) : Except SumFault Sum := do
  let pieces := lexemes (text.length + 1) text
  match ← whole (16 * (pieces.length + 2)) pieces with
  | (sum, []) => return sum
  | _ => throw .notAtEnd

/-- A truth value as a number. -/
def ofTruth (truth : Bool) : Int64 :=
  if truth then 1 else 0

/-- The result of an operator; nothing can be divided by zero. -/
def Operator.apply (op : Operator) (a b : Int64) : Except SumFault Int64 :=
  match op with
  | .bitOr => .ok (a.lor b)
  | .bitXor => .ok (a.xor b)
  | .bitAnd => .ok (a.land b)
  | .equal => .ok (ofTruth (a == b))
  | .unequal => .ok (ofTruth (a != b))
  | .atMost => .ok (ofTruth (a.toInt ≤ b.toInt))
  | .atLeast => .ok (ofTruth (b.toInt ≤ a.toInt))
  | .less => .ok (ofTruth (a.toInt < b.toInt))
  | .greater => .ok (ofTruth (b.toInt < a.toInt))
  | .shiftLeft => .ok (a.shiftLeft b)
  | .shiftRight => .ok (a.shiftRight b)
  | .plus => .ok (a.add b)
  | .minus => .ok (a.sub b)
  | .times => .ok (a.mul b)
  -- Division goes toward zero, and the remainder has the sign of what is divided.
  | .divide => if b == 0 then .error .byZero else .ok (a.div b)
  | .remainder => if b == 0 then .error .byZero else .ok (a.mod b)

/-- The result of a sign. -/
def Sign.apply (sign : Sign) (a : Int64) : Int64 :=
  match sign with
  | .minus => a.neg
  | .complement => a.complement
  | .isZero => ofTruth (a == 0)

/-- The number that a text stands for; where a numeral may choose its base, blanks alone are
zero. -/
def numberOf? (anyBase : Bool) (text : Text) : Option Int :=
  let body := Text.trim text
  let (negative, digits) := match body with
    | '-' :: digits => (true, digits)
    | '+' :: digits => (false, digits)
    | _ => (false, body)
  let found := if anyBase then numeral? digits
    else if digits.head?.any isAsciiDigit then
      some (Numeral.value (digits.takeWhile isAsciiDigit), digits.dropWhile isAsciiDigit)
    else none
  match found with
  | some (n, []) =>
    if negative then (if n ≤ largest + 1 then some (-(n : Int)) else none)
    else if n ≤ largest then some n else none
  | some _ => none
  | none => if anyBase && body.isEmpty then some 0 else none

/-- Variables that were set, the latest first. -/
abbrev Changes := List (Text × Int64)

/-- The number that a variable holds. -/
def numberHeld (value : Text → Text) (changes : Changes) (name : Text) : Except SumFault Int64 :=
  match changes.lookup name with
  | some n => .ok n
  | none =>
    match numberOf? true (value name) with
    | some n => .ok (Int64.ofInt n)
    | none => .error (.noNumber (value name))

/-- The value of an expression, given the values of variables, and the variables that it sets. -/
def Sum.evaluate (value : Text → Text) (changes : Changes) :
    Sum → Except SumFault (Int64 × Changes)
  | .number n => .ok (n, changes)
  | .name word => do return (← numberHeld value changes word, changes)
  | .signed sign body => do
    let (n, changes) ← body.evaluate value changes
    return (sign.apply n, changes)
  | .operation op first second => do
    let (a, changes) ← first.evaluate value changes
    let (b, changes) ← second.evaluate value changes
    return (← op.apply a b, changes)
  | .both first second => do
    let (a, changes) ← first.evaluate value changes
    -- The second one is not looked at, and sets no variable.
    if a == 0 then return (0, changes)
    let (b, changes) ← second.evaluate value changes
    return (ofTruth (b != 0), changes)
  | .either first second => do
    let (a, changes) ← first.evaluate value changes
    if a != 0 then return (1, changes)
    let (b, changes) ← second.evaluate value changes
    return (ofTruth (b != 0), changes)
  | .choice condition body otherwise => do
    let (a, changes) ← condition.evaluate value changes
    if a != 0 then body.evaluate value changes else otherwise.evaluate value changes
  | .assignment word op sum => do
    let (b, changes) ← sum.evaluate value changes
    match op with
    | none => return (b, (word, b) :: changes)
    | some op =>
      let n ← op.apply (← numberHeld value changes word) b
      return (n, (word, n) :: changes)

end Shell
end IdlScout
