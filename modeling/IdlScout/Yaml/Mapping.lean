import IdlScout.Yaml.Scalar

/-! Mappings of texts to texts printed as YAML, an entry after the other. -/

namespace IdlScout
namespace Yaml

/-- A written scalar and whether the writing ended at the start of a line. -/
structure Written where
  text : Text
  atLineStart : Bool
  deriving Repr, DecidableEq

/-- A text in the style that its shape and place give it. -/
def scalar (isSimpleKey : Bool) (text : Text) : Written :=
  match style isSimpleKey text with
  | .literal => ⟨write .literal text, text.getLast?.any isBreak⟩
  | style => ⟨write style text, false⟩

/-- A writing brought to the start of a line. -/
def Written.line (written : Written) : Text :=
  if written.atLineStart then written.text else written.text ++ ['\n']

/-- A key stands on one line with its value if it is one line of at most 128 bytes. -/
def isSimpleKey (key : Text) : Bool :=
  !key.any isBreak && Utf8.size key ≤ 128

/-- An entry: a simple key before a colon, or any other key after a question mark. -/
def entry (key value : Text) : Text :=
  let written := (scalar false value).line
  -- A question mark lets a key take lines of its own.
  if isSimpleKey key then (scalar true key).text ++ ": ".toList ++ written
  else "? ".toList ++ (scalar false key).line ++ ": ".toList ++ written

/-- A mapping, its entries in their order. -/
def printMapping (entries : List (Text × Text)) : Text :=
  -- A mapping without entries is written in braces, as it has no line to stand on.
  if entries.isEmpty then "\x7b\x7d\n".toList
  else entries.flatMap fun (key, value) => entry key value

end Yaml
end IdlScout
