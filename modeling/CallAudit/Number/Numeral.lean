import CallAudit.Number.Binary64
import CallAudit.Text.Blank

/-!
# Numerals

Reading numbers from texts.  White space may surround a numeral, and the decimal digits of any
script count.  The ten digits of a script follow each other in order, so the zeros determine them
all.
-/

namespace CallAudit

namespace CodePoint

/-- The digit zero of each script. -/
def decimalZeros : List Nat := [
  0x30, 0x660, 0x6F0, 0x7C0, 0x966, 0x9E6, 0xA66, 0xAE6, 0xB66, 0xBE6, 0xC66, 0xCE6, 0xD66, 0xDE6,
  0xE50, 0xED0,
  0xF20, 0x1040, 0x1090, 0x17E0, 0x1810, 0x1946, 0x19D0, 0x1A80, 0x1A90, 0x1B50, 0x1BB0, 0x1C40,
  0x1C50, 0xA620,
  0xA8D0, 0xA900, 0xA9D0, 0xA9F0, 0xAA50, 0xABF0, 0xFF10, 0x104A0, 0x10D30, 0x11066, 0x110F0,
  0x11136, 0x111D0,
  0x112F0, 0x11450, 0x114D0, 0x11650, 0x116C0, 0x11730, 0x118E0, 0x11950, 0x11C50, 0x11D50, 0x11DA0,
  0x16A60,
  0x16AC0, 0x16B50, 0x1D7CE, 0x1D7D8, 0x1D7E2, 0x1D7EC, 0x1D7F6, 0x1E140, 0x1E2F0, 0x1E950, 0x1FBF0]

def decimal? (c : CodePoint) : Option Nat :=
  (decimalZeros.find? fun first ↦ c.within first (first + 9)).map fun first ↦ c.value - first

end CodePoint

namespace Numeral

def ofDigits (base : Nat) (digits : List Nat) : Nat := digits.foldl (fun n d ↦ n * base + d) 0

def spanDigits : Text → List Nat × Text
  | [] => ([], [])
  | c :: rest =>
    match c.decimal? with
    | some d => (d :: (spanDigits rest).1, (spanDigits rest).2)
    | none => ([], c :: rest)

/-- Whether a text begins with a minus sign, and what follows its sign. -/
def spanSign : Text → Bool × Text
  | [] => (false, [])
  | c :: rest =>
    if c = '-' then (true, rest) else if c = '+' then (false, rest) else (false, c :: rest)

def groupedDigits? : Text → Option (List Nat)
  | [] => none
  | [c] => c.decimal?.map fun d ↦ [d]
  | c :: d :: rest => do
    let digit ← c.decimal?
    let digits ← if d = '_' then groupedDigits? rest else groupedDigits? (d :: rest)
    pure (digit :: digits)

def digitLimit : Nat := 4300

/-- An integer: a sign, and digits that single underscores may divide. -/
def integer? (t : Text) : Option Int := do
  let (negative, body) := spanSign (t.trimBy CodePoint.isNumeralBlank)
  let digits ← groupedDigits? body
  if digitLimit < digits.length then none
  else
    let n : Int := ofDigits 10 digits
    pure (if negative then -n else n)

def isZeroFraction : Text → Bool
  | [] => true
  | point :: zeros => point == '.' && !zeros.isEmpty && zeros.all fun c : CodePoint ↦ c == '0'

/-- The digits of a number from the first that counts on.  A zero at the beginning is dropped with
all zeros and underscores behind it; the last zero of a number that has no other digits stays. -/
def significant (t : Text) : Text :=
  if t.head? = some (.ofChar '0') then
    let rest := t.dropWhile fun c : CodePoint ↦ c == '0' || c == '_'
    if rest.isEmpty then t.drop (t.length - 1) else rest
  else t

/-- A whole number in ASCII digits: as an integer, but zeros may follow a point, and only
significant digits must be divided by single underscores and count against the limit. -/
def whole? (t : Text) : Option Int := do
  let (negative, body) := spanSign (t.trimBy CodePoint.isNumeralBlank)
  let integral := body.takeWhile fun c : CodePoint ↦ c != '.'
  if !integral.all CodePoint.isAscii || !isZeroFraction (body.drop integral.length) then none
  else
    let digits ← groupedDigits? (significant integral)
    if digitLimit < digits.length then none
    else
      let n : Int := ofDigits 10 digits
      pure (if negative then -n else n)

def exponent? : Text → Option Int
  | [] => some 0
  | c :: rest =>
    if c = 'e' then
      let (negative, body) := spanSign rest
      match spanDigits body with
      | (d :: digits, []) =>
        let n : Int := ofDigits 10 (d :: digits)
        some (if negative then -n else n)
      | _ => none
    else none

def unsigned? (negative : Bool) (body : Text) : Option Binary64 := do
  let (whole, rest) := spanDigits body
  let (fraction, rest) :=
    match rest with
    | c :: rest' => if c = '.' then spanDigits rest' else ([], c :: rest')
    | [] => ([], [])
  if whole.isEmpty && fraction.isEmpty then none
  else
    let exponent ← exponent? rest
    pure (Binary64.ofDecimal negative (ofDigits 10 (whole ++ fraction))
      (exponent - fraction.length))

/-- A decimal number, or one of the words `inf`, `infinity` and `nan`, in any case and with an
optional sign. -/
def decimal? (t : Text) : Option Binary64 :=
  let (negative, body) := spanSign (t.trimBy CodePoint.isNumeralBlank).asciiLower
  if body = ("inf" : Text) ∨ body = ("infinity" : Text) then some (.infinite negative)
  else if body = ("nan" : Text) then some .nan
  else unsigned? negative body

end Numeral

end CallAudit
