import IdlScout.Files.Path
import IdlScout.Text.Utf8

/-! Paths of any bytes, as the system takes them; not all of them are paths that a text spells. -/

namespace IdlScout

/-- A path, whose bytes need not be those of a text. -/
structure RawPath where
  bytes : Bytes
  deriving Repr, DecidableEq

namespace RawPath

/-- The path that a text spells. -/
def ofText (text : Text) : RawPath :=
  ⟨Utf8.encode text⟩

/-- The text that a path is shown as. All malformed sequences are shown alike, so paths that differ
in them cannot be told apart here. -/
def shown (path : RawPath) : Text :=
  Utf8.decodeLossy path.bytes

instance : Coe Text RawPath := ⟨ofText⟩

/-- A path as a text in which each byte stands as the character of its number. Components are cut
out of paths at slashes and points alone, and these are their own bytes. -/
def spelling (path : RawPath) : Text :=
  path.bytes.map fun byte => Char.ofNat byte.toNat

/-- Paths are the same when their components are, byte for byte. -/
def same (a b : RawPath) : Bool :=
  Path.same a.spelling b.spelling

/-- The first spelling of each path, in order. -/
def distinct (paths : List RawPath) : List RawPath :=
  Text.firstsBy same paths

end RawPath
end IdlScout
