import CallAudit.Charset.Utf8
import CallAudit.Charset.Utf16
import CallAudit.Text.Blank

/-!
# Charsets

The encodings that files can be read in, the names they go by, and decoding.  Which codecs there are
and what they make of bytes is up to those who supply them; the charsets of this module are a
supply of their own.
-/

namespace CallAudit

/-! ### Codecs -/

/-- Why the bytes of a file are not a text in its charset: the bytes at fault are named, or another
reason is. -/
inductive Charset.Error where
  | fault (fault : DecodeFault)
  | refused (reason : String)
  deriving DecidableEq, Repr

def Charset.Error.message : Error → Text
  | fault f => f.message
  | refused reason => Text.ofString reason

abbrev Codec := List UInt8 → Except Charset.Error Text

/-- Why there is no codec for a name: nothing goes by it, or something that does not yield texts. -/
inductive Codecs.Gap where
  | unknown
  | notText
  deriving DecidableEq, Repr

def Codecs.Gap.message (name : Text) : Gap → Text
  | unknown => .concat ["unknown encoding: ", name]
  | notText =>
    .concat [[.apostrophe], name, [.apostrophe],
      " is not a text encoding; use codecs.open() to handle arbitrary codecs"]

abbrev Codecs := Text → Except Codecs.Gap Codec

/-! ### Charsets and their names -/

inductive Charset where
  | utf8
  | utf8Signed
  | latin1
  | ascii
  | utf16
  deriving DecidableEq, Repr

namespace Charset

/-- Names are compared by their letters, digits and points, in lower case; anything else only
divides them. -/
def normalize (name : Text) : List Text :=
  let meaningful (c : CodePoint) : Bool :=
    c.within 0x30 0x39 || c.within 0x41 0x5A || c.within 0x61 0x7A || c == '.'
  let divided : Text := name.map fun c ↦ if meaningful c then c.asciiLower else ' '
  (divided.splitAt ' ').filter fun word ↦ !word.isEmpty

def properName : Charset → String
  | utf8 => "utf 8"
  | utf8Signed => "utf 8 sig"
  | latin1 => "latin 1"
  | ascii => "ascii"
  | utf16 => "utf 16"

def aliases : Charset → List String
  | utf8 => ["utf8", "utf", "u8", "utf8 ucs2", "utf8 ucs4", "cp65001"]
  | utf8Signed => []
  | latin1 =>
    ["latin1", "latin", "l1", "iso 8859 1", "iso8859 1", "iso8859", "8859", "cp819", "csisolatin1",
      "ibm819", "iso 8859 1 1987", "iso ir 100"]
  | ascii =>
    ["us ascii", "us", "646", "ansi x3.4 1968", "ansi x3 4 1968", "ansi x3.4 1986", "cp367",
      "csascii", "ibm367", "iso646 us", "iso 646.irv 1991", "iso ir 6"]
  | utf16 => ["utf16", "u16"]

def all : List Charset := [utf8, utf8Signed, latin1, ascii, utf16]

def ofAlias? (name : Text) : Option Charset :=
  all.find? fun charset ↦ charset.aliases.any fun known ↦ Text.ofString known == name

/-- The charset that goes by a name.  In an alias, points may divide the words; `locale` stands for
the usual charset. -/
def find? (name : Text) : Option Charset :=
  let words := Text.join (" " : Text) (normalize name)
  let divided : Text := words.map fun c : CodePoint ↦ if c = '.' then .ofChar ' ' else c
  if name = ("locale" : Text) then some utf8
  else
    ((ofAlias? words).or (ofAlias? divided)).or
      (all.find? fun charset ↦ Text.ofString charset.properName == words)

/-! ### Decoding -/

def decodeAsciiFrom (position : Nat) : List UInt8 → Except DecodeFault Text
  | [] => .ok []
  | b :: rest =>
    if b.toNat < 0x80 then (decodeAsciiFrom (position + 1) rest).map
      (CodePoint.ofChar (Char.ofNat b.toNat) :: ·)
    else .error ⟨"ascii", position, 1, b, .notAscii⟩

/-- A byte order mark is required, and bytes without one are judged in little-endian order before it
is missed. -/
def decodeUtf16 : List UInt8 → Except Error Text
  | 0xFF :: 0xFE :: rest => (Utf16.decodeFrom .little 2 rest).mapError .fault
  | 0xFE :: 0xFF :: rest => (Utf16.decodeFrom .big 2 rest).mapError .fault
  | bytes =>
    match Utf16.decodeFrom .little 0 bytes with
    | .error f => .error (.fault f)
    | .ok t =>
      if bytes.isEmpty then .ok t else .error (.refused "UTF-16 stream does not start with BOM")

/-- A mark at the beginning is dropped, a file that ends within it is empty, and positions count
from behind it. -/
def decodeUtf8Signed : List UInt8 → Except DecodeFault Text
  | [0xEF] => .ok []
  | [0xEF, 0xBB] => .ok []
  | 0xEF :: 0xBB :: 0xBF :: rest => Utf8.decode rest
  | bytes => Utf8.decode bytes

def decode (charset : Charset) (bytes : List UInt8) : Except Error Text :=
  match charset with
  | utf8 => (Utf8.decode bytes).mapError .fault
  | utf8Signed => (decodeUtf8Signed bytes).mapError .fault
  | latin1 => .ok (bytes.map fun b ↦ ⟨b.toNat, by have := b.toNat_lt; omega⟩)
  | ascii => (decodeAsciiFrom 0 bytes).mapError .fault
  | utf16 => decodeUtf16 bytes

def codecs : Codecs := fun name ↦ (find? name).elim (.error .unknown) fun known ↦ .ok known.decode

end Charset

end CallAudit
