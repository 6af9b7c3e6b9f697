import CallAudit.Charset.Utf8
import CallAudit.Text.LowerCase

/-!
# Names and paths of files

The name of a file is a sequence of bytes.  As a text it is read as UTF-8, where a byte that is no
part of an encoded code point is shown as a surrogate; two texts can thus spell the same name.

A path is a sequence of names, read from the working directory or from the root.  Empty names and
single dots say nothing and are dropped; double dots stay, since what they lead to depends on the
files.
-/

namespace CallAudit

/-! ### Names -/

def CodePoint.isByteEscape (c : CodePoint) : Bool := c.within 0xDC80 0xDCFF

/-- Surrogates cannot be part of a file name, except those that stand for single bytes. -/
def CodePoint.isUnencodable (c : CodePoint) : Bool := decide c.IsSurrogate && !c.isByteEscape

abbrev FileName := List UInt8

namespace FileName

def ofText (t : Text) : FileName :=
  t.flatMap fun c ↦
    if c.isByteEscape then [UInt8.ofNat (c.value - 0xDC00)] else Utf8.encodePoint c

def text (name : FileName) : Text := Utf8.decodeEscaping name

end FileName

namespace Text

/-- Whether a text spells bytes at all: it has no surrogate without a byte, and no null. -/
def hasBytes (t : Text) : Bool := t.all fun c ↦ !c.isUnencodable && c.value != 0

/-- A text as it is read back after it was kept as bytes. -/
def viaBytes (t : Text) : Text := (FileName.ofText t).text

end Text

/-! ### Paths -/

/-- A normalised path: the slashes it begins with, which are none, one or two, and its parts. -/
structure Path where
  slashes : Nat
  parts : List Text
  deriving DecidableEq

namespace Path

/-- The path that a text spells.  Exactly two leading slashes are kept; more count as one. -/
def parse (t : Text) : Path :=
  let leading := (t.takeWhile fun c : CodePoint ↦ c == '/').length
  { slashes := if leading ≤ 2 then leading else 1
    parts := (t.splitAt '/').filter fun part ↦ !part.isEmpty && part != ("." : Text) }

def render (p : Path) : Text :=
  if p.slashes = 0 ∧ p.parts = [] then "."
  else List.replicate p.slashes (CodePoint.ofChar '/') ++ Text.join "/" p.parts

def below (p : Path) (parts : List Text) : Path := { p with parts := p.parts ++ parts }

def names (p : Path) : List FileName := p.parts.map FileName.ofText

def ofNames (names : List FileName) : Path := { slashes := 1, parts := names.map FileName.text }

def name (p : Path) : Text := p.parts.getLast?.getD []

/-- The ending of a file name from its last dot on; a name that begins or ends with that dot has
none. -/
def extension (name : Text) : Text :=
  let stem := (name.reverse.dropWhile fun c : CodePoint ↦ c != '.').reverse
  if stem.length ≤ 1 ∨ stem.length = name.length then [] else name.drop (stem.length - 1)

def supportedExtensions : List String := [".js", ".jsx", ".mjs", ".cjs"]

def isSupported (p : Path) : Bool :=
  supportedExtensions.any fun e ↦ Text.ofString e == (extension p.name).lower

def partsPrecede : List Text → List Text → Bool
  | [], _ => true
  | _ :: _, [] => false
  | a :: as, b :: bs => if a = b then partsPrecede as bs else Text.precedes a b

end Path

end CallAudit
