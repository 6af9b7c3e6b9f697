import CallAudit.Charset.Fault
import CallAudit.Text.Surrogate

/-!
# UTF-16

Code units of two bytes in either order.  A code point beyond `U+FFFF` is a high surrogate followed
by a low one, and surrogates occur in no other way.
-/

namespace CallAudit.Utf16

inductive ByteOrder where
  | little
  | big
  deriving DecidableEq, Repr

namespace ByteOrder

def codec : ByteOrder → String
  | little => "utf-16-le"
  | big => "utf-16-be"

/-- The code unit of two bytes, as the code point with that number. -/
def unit (order : ByteOrder) (a b : UInt8) : CodePoint :=
  match order with
  | little => ⟨a.toNat + 0x100 * b.toNat, by have := a.toNat_lt; have := b.toNat_lt; omega⟩
  | big => ⟨0x100 * a.toNat + b.toNat, by have := a.toNat_lt; have := b.toNat_lt; omega⟩

end ByteOrder

def decodeFrom (order : ByteOrder) (position : Nat) : List UInt8 → Except DecodeFault Text
  | [] => .ok []
  | [a] => .error ⟨order.codec, position, 1, a, .truncated⟩
  | a :: b :: rest =>
    let high := order.unit a b
    if high.IsLow then .error ⟨order.codec, position, 2, a, .illegalEncoding⟩
    else if hHigh : high.IsHigh then
      match rest with
      | c :: d :: rest' =>
        let low := order.unit c d
        if hLow : low.IsLow then
          (decodeFrom order (position + 4) rest').map (CodePoint.ofPair high low ⟨hHigh, hLow⟩ :: ·)
        else .error ⟨order.codec, position, 2, a, .illegalSurrogate⟩
      | rest => .error ⟨order.codec, position, 2 + rest.length, a, .unexpectedEnd⟩
    else (decodeFrom order (position + 2) rest).map (high :: ·)

end CallAudit.Utf16
