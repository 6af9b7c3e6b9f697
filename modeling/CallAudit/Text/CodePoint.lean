/-!
# Code points and text

Source files, names and messages are sequences of Unicode code points.  A string literal may spell
one half of a surrogate pair, so surrogates are ordinary members of a text here, and a text is a
list of code points rather than a `String`.
-/

namespace CallAudit

/-- A Unicode code point; the surrogates `U+D800 .. U+DFFF` are included. -/
structure CodePoint where
  value : Nat
  isLt : value < 0x110000
  deriving DecidableEq, Repr

abbrev Text := List CodePoint

namespace CodePoint

def ofChar (c : Char) : CodePoint :=
  ⟨c.toNat, by
    have h := c.valid
    simp only [UInt32.isValidChar, Nat.isValidChar] at h
    simp only [Char.toNat]
    omega⟩

instance : Coe Char CodePoint := ⟨ofChar⟩

instance : Inhabited CodePoint := ⟨ofChar ' '⟩

def lineFeed : CodePoint := ⟨0x0A, by decide⟩

def carriageReturn : CodePoint := ⟨0x0D, by decide⟩

def quotationMark : CodePoint := ⟨0x22, by decide⟩

def apostrophe : CodePoint := ⟨0x27, by decide⟩

def backslash : CodePoint := ⟨0x5C, by decide⟩

def ofNat? (n : Nat) : Option CodePoint :=
  if h : n < 0x110000 then some ⟨n, h⟩ else none

def toChar? (c : CodePoint) : Option Char :=
  if c.value.isValidChar then some (Char.ofNat c.value) else none

def within (c : CodePoint) (lo hi : Nat) : Bool :=
  decide (lo ≤ c.value) && decide (c.value ≤ hi)

def isAscii (c : CodePoint) : Bool := decide (c.value < 0x80)

/-- The ASCII letters `A .. Z` go to `a .. z`; all else stays. -/
def asciiLower (c : CodePoint) : CodePoint :=
  if h : 0x41 ≤ c.value ∧ c.value ≤ 0x5A then ⟨c.value + 0x20, by omega⟩ else c

/-- The value of a digit of a base up to 36, letters counting in either case. -/
def digit? (base : Nat) (c : CodePoint) : Option Nat :=
  let d? :=
    if c.within 0x30 0x39 then some (c.value - 0x30)
    else if c.within 0x61 0x7A then some (c.value - 0x61 + 10)
    else if c.within 0x41 0x5A then some (c.value - 0x41 + 10)
    else none
  d?.filter (· < base)

@[simp] theorem value_ofChar (c : Char) : (ofChar c).value = c.toNat := rfl

theorem ext {c d : CodePoint} (h : c.value = d.value) : c = d := by
  cases c
  cases d
  simp_all

theorem ofNat?_eq_some_iff {n : Nat} {c : CodePoint} : ofNat? n = some c ↔ c.value = n := by
  constructor
  · intro h
    unfold ofNat? at h
    split at h
    · cases h
      rfl
    · cases h
  · rintro rfl
    exact dif_pos c.isLt

end CodePoint

namespace Text

def ofString (s : String) : Text := s.toList.map CodePoint.ofChar

instance : Coe String Text := ⟨ofString⟩

def toString? (t : Text) : Option String := (t.mapM CodePoint.toChar?).map String.ofList

/-- Order by code point, a text coming before its extensions. -/
def precedes : Text → Text → Bool
  | [], _ => true
  | _ :: _, [] => false
  | c :: s, d :: t => decide (c.value < d.value) || (c == d && precedes s t)

def concat (parts : List Text) : Text := parts.flatten

def join (separator : Text) : List Text → Text
  | [] => []
  | [t] => t
  | t :: ts => t ++ separator ++ join separator ts

/-- The pieces between the occurrences of a code point; one more piece than there are
occurrences. -/
def splitAt (c : CodePoint) : Text → List Text
  | [] => [[]]
  | d :: t =>
    match splitAt c t with
    | [] => [[d]]
    | piece :: pieces => if d = c then [] :: piece :: pieces else (d :: piece) :: pieces

/-- What follows a given beginning of a text. -/
def after? (t beginning : Text) : Option Text :=
  if beginning.isPrefixOf t then some (t.drop beginning.length) else none

def asciiLower (t : Text) : Text := t.map CodePoint.asciiLower

def ofNat (n : Nat) : Text := (Nat.toDigits 10 n).map CodePoint.ofChar

def ofInt : Int → Text
  | .ofNat n => ofNat n
  | .negSucc n => CodePoint.ofChar '-' :: ofNat (n + 1)

def zeros (count : Nat) : Text := List.replicate count (CodePoint.ofChar '0')

def padZeros (width : Nat) (t : Text) : Text := zeros (width - t.length) ++ t

def hex (width n : Nat) : Text := padZeros width ((Nat.toDigits 16 n).map CodePoint.ofChar)

end Text

end CallAudit
