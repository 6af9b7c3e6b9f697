/-!
# Binary64 numbers

Numeric literals denote numbers of 53 significant bits.  A finite number is kept as a sign, a
significand and a scale, so that every statement about it is one about natural numbers; rounding is
to the nearest number, and of two equally near ones to the one with the even significand.
-/

namespace CallAudit

/-- A binary64 number.  `finite negative significand scale` is
`± significand * 2 ^ scale / 2 ^ 1074`. -/
inductive Binary64 where
  | nan
  | infinite (negative : Bool)
  | finite (negative : Bool) (significand scale : Nat)
  deriving DecidableEq, Repr

namespace Binary64

def unitScale : Nat := 1074

/-- The quotient rounded to the nearest natural number, a half going to the even neighbour. -/
def roundDiv (num den : Nat) : Nat :=
  let quotient := num / den
  let twice := 2 * (num % den)
  if twice < den ∨ twice = den ∧ quotient % 2 = 0 then quotient else quotient + 1

/-- The number nearest to `± num / (den * 2 ^ 1074)`; none if it is beyond the largest finite
one. -/
def ofUnits? (negative : Bool) (num den : Nat) : Option Binary64 :=
  let scale := (num / den).log2 + 1 - 53
  let significand := roundDiv num (den * Nat.pow 2 scale)
  let (significand, scale) :=
    if significand = Nat.pow 2 53 then (Nat.pow 2 52, scale + 1) else (significand, scale)
  if scale ≤ 2045 then some (finite negative significand scale) else none

def ofRatio? (negative : Bool) (num den : Nat) : Option Binary64 :=
  ofUnits? negative (num * Nat.pow 2 unitScale) den

def ofNat? (n : Nat) : Option Binary64 := ofRatio? false n 1

/-- The number nearest to `± digits * 10 ^ exponent`, infinite if it is beyond the largest finite
one.  Values that are far out of range are decided by their size alone. -/
def ofDecimal (negative : Bool) (digits : Nat) (exponent : Int) : Binary64 :=
  if digits = 0 then finite negative 0 0
  else if 310 < exponent then infinite negative
  else if exponent + digits.log2 + 1 < -340 then finite negative 0 0
  else
    let num := digits * Nat.pow 10 exponent.toNat
    let den := Nat.pow 10 (-exponent).toNat
    (ofRatio? negative num den).getD (infinite negative)

def natural? (significand scale : Nat) : Option Nat :=
  let scaled := significand * Nat.pow 2 scale
  if scaled % Nat.pow 2 unitScale = 0 then some (scaled / Nat.pow 2 unitScale) else none

end Binary64

end CallAudit
