import CallAudit.Text.CodePoint

/-!
# Bytes that cannot be decoded

A decoder stops at the first bytes that are not the encoding of a code point.  The fault says where
they are, how many they are and why they are refused.
-/

namespace CallAudit

inductive DecodeFault.Reason where
  | invalidStart
  | invalidContinuation
  | unexpectedEnd
  | notAscii
  | truncated
  | illegalEncoding
  | illegalSurrogate
  | other (reason : String)
  deriving DecidableEq, Repr

/-- The first bytes of a file that a decoder refuses: `length` bytes from `position` on, `byte` the
first of them. -/
structure DecodeFault where
  codec : String
  position : Nat
  length : Nat
  byte : UInt8
  reason : DecodeFault.Reason
  deriving DecidableEq, Repr

namespace DecodeFault

def Reason.message : Reason → String
  | invalidStart => "invalid start byte"
  | invalidContinuation => "invalid continuation byte"
  | unexpectedEnd => "unexpected end of data"
  | notAscii => "ordinal not in range(128)"
  | truncated => "truncated data"
  | illegalEncoding => "illegal encoding"
  | illegalSurrogate => "illegal UTF-16 surrogate"
  | other reason => reason

/-- One refused byte is shown by its value, several by their positions. -/
def message (f : DecodeFault) : Text :=
  let place :=
    if f.length = 1 then Text.concat ["byte 0x", Text.hex 2 f.byte.toNat, " in position ",
      Text.ofNat f.position]
    else Text.concat ["bytes in position ", Text.ofNat f.position, "-",
      Text.ofNat (f.position + f.length - 1)]
  Text.concat [[.apostrophe], f.codec, [.apostrophe], " codec can't decode ", place, ": ",
    f.reason.message]

end DecodeFault

end CallAudit
