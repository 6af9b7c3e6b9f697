import CallAudit.Number.Numeral

/-!
# Numeric literals

The number that a JavaScript numeric literal denotes: integers with a radix prefix, octal integers
with a leading zero, and decimals; underscores anywhere and one final `n` are ignored.
-/

namespace CallAudit

namespace NumericLiteral

/-- The digits of a base that make up a whole text, decimal digits of any script counting. -/
def digits? (base : Nat) (t : Text) : Option (List Nat) :=
  if t.isEmpty then none
  else t.mapM fun c ↦ (c.decimal?.filter (· < base)).or (c.digit? base)

/-- The literal without underscores, in lower case and without the suffix of big integers. -/
def strip (raw : Text) : Text :=
  let t := Text.asciiLower (raw.filter (· ≠ '_'))
  if t.getLast? = some 'n' then t.dropLast else t

def radix? (c : CodePoint) : Option Nat :=
  if c = 'x' then some 16 else if c = 'o' then some 8 else if c = 'b' then some 2 else none

def value? (raw : Text) : Option Binary64 :=
  let t := strip raw
  match t with
  | zero :: c :: rest =>
    if zero = '0' then
      match radix? c with
      | some base => (digits? base (Text.trimEndBy CodePoint.isNumeralBlank rest)).bind fun ds ↦
          Binary64.ofNat? (Numeral.ofDigits base ds)
      | none =>
        match (c :: rest).mapM (CodePoint.digit? 8) with
        | some ds => Binary64.ofNat? (Numeral.ofDigits 8 ds)
        | none => Numeral.decimal? t
    else Numeral.decimal? t
  | _ => Numeral.decimal? t

end NumericLiteral

end CallAudit
