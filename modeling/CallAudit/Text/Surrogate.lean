import CallAudit.Text.CodePoint

/-!
# Surrogate pairs

A high surrogate directly before a low one stands for a single code point beyond `U+FFFF`.
`Text.joinPairs` writes every such pair as that code point; a surrogate without its partner stays.
-/

namespace CallAudit

namespace CodePoint

def IsHigh (c : CodePoint) : Prop := 0xD800 ≤ c.value ∧ c.value ≤ 0xDBFF

def IsLow (c : CodePoint) : Prop := 0xDC00 ≤ c.value ∧ c.value ≤ 0xDFFF

def IsSurrogate (c : CodePoint) : Prop := 0xD800 ≤ c.value ∧ c.value ≤ 0xDFFF

instance (c : CodePoint) : Decidable c.IsHigh := inferInstanceAs (Decidable (_ ∧ _))

instance (c : CodePoint) : Decidable c.IsLow := inferInstanceAs (Decidable (_ ∧ _))

instance (c : CodePoint) : Decidable c.IsSurrogate := inferInstanceAs (Decidable (_ ∧ _))

def ofPair (high low : CodePoint) (h : high.IsHigh ∧ low.IsLow) : CodePoint :=
  ⟨0x10000 + (high.value - 0xD800) * 0x400 + (low.value - 0xDC00), by
    obtain ⟨⟨_, _⟩, _, _⟩ := h
    omega⟩

theorem le_value_ofPair {high low : CodePoint} (h : high.IsHigh ∧ low.IsLow) :
    0x10000 ≤ (ofPair high low h).value := by
  dsimp only [ofPair]
  omega

end CodePoint

namespace Text

/-- Every high surrogate directly before a low one is replaced, with it, by the code point of the
pair. -/
def joinPairs : Text → Text
  | [] => []
  | [c] => [c]
  | c :: d :: rest =>
    if h : c.IsHigh ∧ d.IsLow then CodePoint.ofPair c d h :: joinPairs rest
    else c :: joinPairs (d :: rest)

def hasSurrogate (t : Text) : Bool := t.any fun c ↦ decide c.IsSurrogate

end Text

end CallAudit
