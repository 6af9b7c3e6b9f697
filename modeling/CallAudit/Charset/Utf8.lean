import CallAudit.Charset.Fault
import CallAudit.Text.Surrogate

/-!
# UTF-8

One reader judges the bytes of one code point; the strict decoder stops at the first fault, and the
lenient decoder writes `U+FFFD` for the refused bytes and goes on behind them.  The refused bytes
are the longest beginning of an encoded code point that stands there, or a single byte.
-/

namespace CallAudit.Utf8

/-- What stands at the beginning of some bytes: a code point encoded in `1 + more` bytes, or
`1 + more` bytes that are refused. -/
inductive Step where
  | point (c : CodePoint) (more : Nat)
  | refused (reason : DecodeFault.Reason) (more : Nat)
  deriving Repr

/-- Reads `needed` continuation bytes; the first must lie between `lo` and `hi`, and `taken` were
read before. -/
def readMore (value lo hi taken : Nat) : Nat → List UInt8 → Step
  | 0, _ =>
    match CodePoint.ofNat? value with
    | some c => .point c taken
    | none => .refused .invalidStart 0
  | _ + 1, [] => .refused .unexpectedEnd taken
  | needed + 1, b :: rest =>
    if lo ≤ b.toNat ∧ b.toNat ≤ hi then
      readMore (value * 0x40 + (b.toNat - 0x80)) 0x80 0xBF (taken + 1) needed rest
    else .refused .invalidContinuation taken

/-- Reads one code point whose first byte is `b`.  The second byte is bounded so that no code point
has two encodings and no surrogate has one. -/
def read (b : UInt8) (rest : List UInt8) : Step :=
  let n := b.toNat
  if n < 0x80 then readMore n 0x80 0xBF 0 0 rest
  else if n < 0xC2 then .refused .invalidStart 0
  else if n < 0xE0 then readMore (n - 0xC0) 0x80 0xBF 0 1 rest
  else if n < 0xF0 then
    readMore (n - 0xE0) (if n = 0xE0 then 0xA0 else 0x80) (if n = 0xED then 0x9F else 0xBF) 0 2 rest
  else if n < 0xF5 then
    readMore (n - 0xF0) (if n = 0xF0 then 0x90 else 0x80) (if n = 0xF4 then 0x8F else 0xBF) 0 3 rest
  else .refused .invalidStart 0

def decodeFrom (position : Nat) : List UInt8 → Except DecodeFault Text
  | [] => .ok []
  | b :: rest =>
    match read b rest with
    | .point c more => (decodeFrom (position + 1 + more) (rest.drop more)).map (c :: ·)
    | .refused reason more => .error ⟨"utf-8", position, 1 + more, b, reason⟩
termination_by bytes => bytes.length
decreasing_by simp only [List.length_drop, List.length_cons]; omega

def decode (bytes : List UInt8) : Except DecodeFault Text := decodeFrom 0 bytes

/-- The text that bytes encode, with `U+FFFD` in the place of each refused part. -/
def decodeLenient : List UInt8 → Text
  | [] => []
  | b :: rest =>
    match read b rest with
    | .point c more => c :: decodeLenient (rest.drop more)
    | .refused _ more => ⟨0xFFFD, by decide⟩ :: decodeLenient (rest.drop more)
termination_by bytes => bytes.length
decreasing_by all_goals simp only [List.length_drop, List.length_cons]; omega

/-- The surrogate that stands for a byte which is no part of an encoded code point. -/
def byteEscape (b : UInt8) : CodePoint := ⟨0xDC00 + b.toNat, by have := b.toNat_lt; omega⟩

/-- The text that bytes encode, with surrogates in the place of refused bytes, one for each. -/
def decodeEscaping : List UInt8 → Text
  | [] => []
  | b :: rest =>
    match read b rest with
    | .point c more => c :: decodeEscaping (rest.drop more)
    | .refused _ more =>
      byteEscape b :: ((rest.take more).map byteEscape ++ decodeEscaping (rest.drop more))
termination_by bytes => bytes.length
decreasing_by all_goals simp only [List.length_drop, List.length_cons]; omega

def encodePoint (c : CodePoint) : List UInt8 :=
  let tail (shift : Nat) : UInt8 := UInt8.ofNat (0x80 + c.value / Nat.pow 2 shift % 0x40)
  if c.value < 0x80 then [UInt8.ofNat c.value]
  else if c.value < 0x800 then [UInt8.ofNat (0xC0 + c.value / 0x40), tail 0]
  else if c.value < 0x10000 then [UInt8.ofNat (0xE0 + c.value / 0x1000), tail 6, tail 0]
  else [UInt8.ofNat (0xF0 + c.value / 0x40000), tail 12, tail 6, tail 0]

def encode? (t : Text) : Option (List UInt8) :=
  if t.hasSurrogate then none else some (t.flatMap encodePoint)

end CallAudit.Utf8
