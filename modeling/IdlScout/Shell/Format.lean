import IdlScout.Shell.Arithmetic
import IdlScout.Text.Utf8

/-! What the commands that print write: formats with their arguments, and words in a line. -/

namespace IdlScout
namespace Shell

/-- Where escapes stand: in a format or in an argument, of a tool or of the shell's own command. -/
structure EscapePlace where
  ofTool : Bool
  inArgument : Bool
  deriving Repr, DecidableEq

/-- What an escape stands for, and what follows it. -/
inductive Escaped where
  | bytes (content : Bytes) (rest : Text)
  /-- Nothing more is written. -/
  | stop
  deriving Repr, DecidableEq

/-- Letters of escapes with the characters they stand for. -/
def escapeLetters : List (Char × Nat) :=
  [('n', 10), ('t', 9), ('\\', 92), ('a', 7), ('b', 8), ('f', 12), ('r', 13), ('v', 11), ('e', 27)]

/-- The byte with a number. -/
def byteOf (n : Nat) : UInt8 :=
  UInt8.ofNat n

/-- The escape of octal digits at the start of a text. -/
def octalEscape (text : Text) : Escaped :=
  let digits := (text.take 3).takeWhile isOctal
  .bytes [byteOf (digits.foldl (fun sum c => 8 * sum + Numeral.digit c) 0)]
    (text.drop digits.length)

/-- The escape after a backslash; one that means nothing stands for itself. -/
def escapeOf (place : EscapePlace) (text : Text) : Escaped :=
  match text with
  | [] => .bytes [92] []
  | c :: rest =>
    match escapeLetters.lookup c with
    | some code => .bytes [byteOf code] rest
    | none =>
      if c = 'c' && (place.ofTool || place.inArgument) then .stop
      -- In an argument a zero comes before up to three digits; in a format it is one of them.
      else if c = '0' && place.inArgument then octalEscape rest
      else if isOctal c then octalEscape text
      else if c = '"' && place.ofTool then .bytes [34] rest
      else if c = 'x' && place.ofTool && rest.head?.any isHex then
        let digits := (rest.take 2).takeWhile isHex
        .bytes [byteOf ((Numeral.hexValue? digits).getD 0)] (rest.drop digits.length)
      else .bytes (92 :: Utf8.encode [c]) rest

/-- A text with its escapes, and whether one of them ended it. -/
def unescaped (place : EscapePlace) : Nat → Text → Bytes × Bool
  | 0, _ => ([], false)
  | _, [] => ([], false)
  | steps + 1, c :: rest =>
    if c = '\\' then
      match escapeOf place rest with
      | .stop => ([], true)
      | .bytes content after =>
        let (more, stopped) := unescaped place steps after
        (content ++ more, stopped)
    else
      let (more, stopped) := unescaped place steps rest
      (Utf8.encode [c] ++ more, stopped)

/-- What can be wrong with a format or an argument. -/
inductive FormatFault where
  | noNumber (argument : Text)
  | notWholly (argument : Text)
  | tooLarge (argument : Text)
  | directive (text : Text)
  | noLetter
  | excess (argument : Text)
  deriving Repr, DecidableEq

namespace FormatFault

/-- The wording of the shell's own command. -/
def message : FormatFault → Text
  | .noNumber argument => argument ++ ": expected numeric value".toList
  | .notWholly argument => argument ++ ": not completely converted".toList
  | .tooLarge argument => argument ++ ": Numerical result out of range".toList
  | .directive text => '%' :: text ++ ": invalid directive".toList
  | .noLetter => "missing format character".toList
  | .excess argument => argument

/-- A text in single quotes. -/
def quoted (text : Text) : Text :=
  ['\''] ++ text ++ ['\'']

/-- The wording of the tool. -/
def toolMessage : FormatFault → Text
  | .noNumber argument => quoted argument ++ ": expected a numeric value".toList
  | .notWholly argument => quoted argument ++ ": value not completely converted".toList
  | .tooLarge argument => quoted argument ++ ": Numerical result out of range".toList
  | .directive text => '%' :: text ++ ": invalid conversion specification".toList
  | .noLetter => "%: invalid conversion specification".toList
  | .excess argument =>
    "warning: ignoring excess arguments, starting with ".toList ++ quoted argument

/-- Nothing more is written. -/
def isFatal : FormatFault → Bool
  | .directive _ | .noLetter => true
  | _ => false

/-- The command fails. -/
def isFailure : FormatFault → Bool
  | .excess _ => false
  | _ => true

end FormatFault

/-- What was written by a format, the arguments that are left, and what was wrong. -/
structure Printed where
  bytes : Bytes := []
  left : List Text
  stopped : Bool := false
  faults : List FormatFault := []
  deriving Repr, DecidableEq

/-- Something written before the rest, with what was wrong with it. -/
def Printed.after (start : Bytes) (faults : List FormatFault) (printed : Printed) : Printed :=
  { printed with bytes := start ++ printed.bytes, faults := faults ++ printed.faults }

/-- How a conversion lays its result out. -/
structure Field where
  flags : Text := []
  width : Nat := 0
  most : Option Nat := none
  deriving Repr, DecidableEq

/-- Bytes in a field of a least width. -/
def Field.place (field : Field) (bytes : Bytes) : Bytes :=
  let gap := List.replicate (field.width - bytes.length) (byteOf 32)
  if field.flags.contains '-' then bytes ++ gap else gap ++ bytes

/-- The sign of a number, and its digits with zeros before them up to the least number of digits;
without one, a flag fills the field with zeros. -/
def Field.number (field : Field) (sign digits : Text) : Bytes :=
  let least := match field.most with
    | some most => most
    | none =>
      if field.flags.contains '0' && !field.flags.contains '-' then field.width - sign.length
      else 1
  let digits := if digits = ['0'] && field.most = some 0 then [] else digits
  field.place (Utf8.encode (sign ++ Text.times (least - digits.length) '0' ++ digits))

/-- The number of a conversion, and what is wrong with it. -/
def numberOf (argument : Text) : Int × List FormatFault :=
  match argument with
  | [] => (0, [])
  | '\'' :: c :: _ | '"' :: c :: _ => (c.toNat, [])
  | _ =>
    let body := Text.trimStart argument
    let (negative, digits) := match body with
      | '-' :: digits => (true, digits)
      | '+' :: digits => (false, digits)
      | _ => (false, body)
    match numeral? digits with
    | none => (0, [.noNumber argument])
    | some (n, rest) =>
      let most := if negative then largest + 1 else largest
      let value : Int := min n most
      (if negative then -value else value,
        if most < n then [.tooLarge argument]
        else if rest.isEmpty then [] else [.notWholly argument])

/-- A number as a word of 64 bits without a sign. -/
def unsigned (n : Int) : Nat :=
  (n % (Numeral.max64 + 1)).toNat

/-- What a conversion of a number writes. -/
def Field.convert (field : Field) (letter : Char) (n : Int) : Bytes :=
  let marked (mark : String) : Text :=
    if field.flags.contains '#' && n != 0 then mark.toList else []
  match letter with
  | 'x' => field.number (marked "0x") (Nat.toDigits 16 (unsigned n))
  | 'X' => field.number (marked "0X") ((Nat.toDigits 16 (unsigned n)).map Char.toUpper)
  | 'o' => field.number [] (marked "0" ++ Nat.toDigits 8 (unsigned n))
  | 'u' => field.number [] (Numeral.write (unsigned n))
  | _ =>
    let sign := if n < 0 then ['-'] else if field.flags.contains '+' then ['+']
      else if field.flags.contains ' ' then [' '] else []
    field.number sign (Numeral.write n.natAbs)

/-- A size in a format: its digits, or an argument in place of a star. -/
def sizeOf (format : Text) (args : List Text) : Int × Text × List Text :=
  match format with
  | '*' :: rest => ((numberOf (args.headD [])).1, rest, args.drop 1)
  | _ =>
    (Numeral.value (format.takeWhile isAsciiDigit), format.dropWhile isAsciiDigit, args)

/-- The layout of a conversion, what follows it, and the arguments that are left. -/
def Field.read (format : Text) (args : List Text) : Field × Text × List Text :=
  let flags := format.takeWhile fun c => "-+ #0".toList.contains c
  let (width, rest, args) := sizeOf (format.drop flags.length) args
  -- A negative width lays the result out to the left.
  let flags := if width < 0 then '-' :: flags else flags
  match rest with
  | '.' :: after =>
    let (most, rest, args) := sizeOf after args
    ({ flags, width := width.natAbs, most := if most < 0 then none else some most.natAbs }, rest,
      args)
  | _ => ({ flags, width := width.natAbs }, rest, args)

/-- One pass over a format. -/
def formatOnce (place : EscapePlace) : Nat → Text → List Text → Printed
  | 0, _, args => { left := args }
  | _, [], args => { left := args }
  | steps + 1, '\\' :: rest, args =>
    match escapeOf place rest with
    | .stop => { left := args, stopped := true }
    | .bytes content after => (formatOnce place steps after args).after content []
  | steps + 1, '%' :: '%' :: rest, args => (formatOnce place steps rest args).after [37] []
  | steps + 1, '%' :: rest, args =>
    let (field, tail, args) := Field.read rest args
    let argument := args.headD []
    let cut (bytes : Bytes) : Bytes := bytes.take (field.most.getD bytes.length)
    let go (after : Text) (bytes : Bytes) (faults : List FormatFault) : Printed :=
      (formatOnce place steps after (args.drop 1)).after bytes faults
    match tail with
    | [] => { left := args, stopped := true, faults := [.noLetter] }
    | 's' :: after => go after (field.place (cut (Utf8.encode argument))) []
    | 'c' :: after =>
      go after (field.place ((Utf8.encode argument ++ [0]).take 1)) []
    | 'b' :: after =>
      let (bytes, stopped) := unescaped { place with inArgument := true } (argument.length + 1)
        argument
      if stopped then { bytes := field.place bytes, left := args.drop 1, stopped := true }
      else go after (field.place (cut bytes)) []
    | letter :: after =>
      if "diuoxX".toList.contains letter then
        let (n, faults) := numberOf argument
        go after (field.convert letter n) faults
      else
        let shown := rest.take (rest.length - after.length)
        { left := args, stopped := true, faults := [.directive shown] }
  | steps + 1, c :: rest, args => (formatOnce place steps rest args).after (Utf8.encode [c]) []

/-- A format is used again as long as it takes arguments and some are left. -/
def formatAll (place : EscapePlace) (format : Text) : Nat → List Text → Printed
  | 0, args => { left := args }
  | steps + 1, args =>
    let printed := formatOnce place (format.length + 1) format args
    if printed.stopped || printed.left.isEmpty then printed
    -- A format that takes no argument would never end.
    else if printed.left.length = args.length then
      { printed with faults := printed.faults ++ [.excess (args.headD [])] }
    else (formatAll place format steps printed.left).after printed.bytes printed.faults

/-- Words in a line, with their escapes; one of them may end the line. -/
def echoEscaped (ofTool ended : Bool) (words : List Text) : Bytes :=
  let line := Text.join [' '] words
  let (bytes, stopped) := unescaped ⟨ofTool, true⟩ (line.length + 1) line
  if stopped || !ended then bytes else bytes ++ [10]

/-- Words in a line. -/
def echoPlain (ended : Bool) (words : List Text) : Bytes :=
  let bytes := Utf8.encode (Text.join [' '] words)
  if ended then bytes ++ [10] else bytes

end Shell
end IdlScout
