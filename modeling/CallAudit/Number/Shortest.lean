import CallAudit.Number.Binary64
import CallAudit.Text.Blank

/-!
# The shortest decimal of a number

A number is shown by the fewest digits that read back as it, and among those by the nearest to it, a
tie going to the even digit.  A decimal reads back as a number if it lies between the halfway points
to the number's two neighbours; the halfway points count as inside if the significand is even.

All comparisons are of natural numbers, in units of `1 / (2 ^ 1076 * 10 ^ 400)`.
-/

namespace CallAudit

namespace Binary64

/-- A positive magnitude with the halfway points to its neighbours, in units of
`1 / (2 ^ 1076 * 10 ^ 400)`. -/
structure Interval where
  low : Nat
  value : Nat
  high : Nat
  closed : Bool

namespace Interval

/-- Below a power of two the neighbour is half as far away as above it. -/
def of (significand scale : Nat) : Interval :=
  let unit := Nat.pow 2 scale * Nat.pow 10 400
  let below := if significand = Nat.pow 2 52 ∧ 0 < scale then 1 else 2
  { low := (4 * significand - below) * unit
    value := 4 * significand * unit
    high := (4 * significand + 2) * unit
    closed := significand % 2 = 0 }

def contains (i : Interval) (x : Nat) : Bool :=
  if i.closed then decide (i.low ≤ x) && decide (x ≤ i.high)
  else decide (i.low < x) && decide (x < i.high)

/-- The better of the two multiples of `grid` beside the value, as a multiple, if one lies in the
interval. -/
def nearest? (i : Interval) (grid : Nat) : Option Nat :=
  let below := i.value / grid
  let above := below + 1
  let rest := i.value % grid
  let nearer := if 2 * rest < grid ∨ 2 * rest = grid ∧ below % 2 = 0 then below else above
  let farther := if nearer = below then above else below
  if i.contains (nearer * grid) then some nearer
  else if i.contains (farther * grid) then some farther
  else none

end Interval

/-- The shortest decimal `digits * 10 ^ exponent` that reads back as a positive magnitude. -/
def shortest (significand scale : Nat) : Nat × Int :=
  let i := Interval.of significand scale
  let size := (Nat.toDigits 10 (i.value / Nat.pow 2 1076)).length
  let attempt (count : Nat) : Option (Nat × Int) :=
    (i.nearest? (Nat.pow 2 1076 * Nat.pow 10 (size - count))).map fun d ↦
      (d, (size : Int) - count - 400)
  ((List.range 17).findSome? fun k ↦ attempt (k + 1)).getD (0, 0)

/-- How decimals are laid out: which positions of the decimal point are written without an exponent,
and how many digits an exponent has at least. -/
structure Layout where
  leastPoint : Int
  greatestPoint : Int
  exponentWidth : Nat

namespace Layout

def report : Layout := { leastPoint := -3, greatestPoint := 16, exponentWidth := 2 }

def positional (digits : Text) (point : Int) : Text :=
  if point ≤ 0 then Text.concat ["0.", Text.zeros (-point).toNat, digits]
  else if digits.length ≤ point.toNat then
    Text.concat [digits, Text.zeros (point.toNat - digits.length), ".0"]
  else Text.concat [digits.take point.toNat, ".", digits.drop point.toNat]

def scientific (width : Nat) (digits : Text) (point : Int) : Text :=
  let exponent := point - 1
  let mantissa :=
    if digits.length ≤ 1 then digits else Text.concat [digits.take 1, ".", digits.drop 1]
  let sign := if exponent < 0 then "-" else "+"
  Text.concat [mantissa, "e", sign, (Text.ofNat exponent.natAbs).padZeros width]

def write (layout : Layout) (digits : Text) (point : Int) : Text :=
  if layout.leastPoint ≤ point ∧ point ≤ layout.greatestPoint then positional digits point
  else scientific layout.exponentWidth digits point

end Layout

def decimal : Binary64 → Text
  | nan => ("nan" : Text)
  | infinite negative => if negative then ("-inf" : Text) else ("inf" : Text)
  | finite negative significand scale =>
    let magnitude : Text :=
      if significand = 0 then ("0.0" : Text)
      else
        let (value, exponent) := shortest significand scale
        let written := Text.ofNat value
        let digits := Text.trimEndBy (fun c ↦ c == '0') written
        Layout.report.write digits (exponent + written.length)
    if negative then '-' :: magnitude else magnitude

/-- The text that a number has as a property key: integers by all their digits, without a point or
an exponent. -/
def canonical : Binary64 → Text
  | nan => ("NaN" : Text)
  | infinite negative => if negative then ("-Infinity" : Text) else ("Infinity" : Text)
  | finite negative significand scale =>
    match natural? significand scale with
    | some n => Text.ofInt (if negative then -(n : Int) else n)
    | none => decimal (finite negative significand scale)

end Binary64

end CallAudit
