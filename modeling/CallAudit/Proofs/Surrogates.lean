import CallAudit.Text.Surrogate

/-!
# UTF-16 code units

A text read as the code units that encode it.  Joining surrogate pairs only looks at the code units,
so that a code point and the pair of surrogates that encodes it are the same to it.  It leaves no
pair behind, and so picks one text among all those with the same code units.
-/

namespace CallAudit

namespace CodePoint

def highHalf (c : CodePoint) : CodePoint :=
  ⟨0xD800 + (c.value - 0x10000) / 0x400, by
    have := c.isLt
    omega⟩

def lowHalf (c : CodePoint) : CodePoint := ⟨0xDC00 + (c.value - 0x10000) % 0x400, by omega⟩

/-- The code units of a code point: two surrogates beyond `U+FFFF`, and else the code point
itself. -/
def units (c : CodePoint) : Text := if c.value < 0x10000 then [c] else [c.highHalf, c.lowHalf]

theorem isPair_halves (c : CodePoint) : c.highHalf.IsHigh ∧ c.lowHalf.IsLow := by
  have hlt := c.isLt
  unfold IsHigh IsLow highHalf lowHalf
  dsimp only
  omega

theorem ofPair_halves {c : CodePoint} (h : 0x10000 ≤ c.value) :
    ofPair c.highHalf c.lowHalf c.isPair_halves = c := by
  apply ext
  dsimp only [ofPair, highHalf, lowHalf]
  omega

theorem units_of_lt {c : CodePoint} (h : c.value < 0x10000) : c.units = [c] := if_pos h

theorem units_of_le {c : CodePoint} (h : 0x10000 ≤ c.value) : c.units = [c.highHalf, c.lowHalf] :=
  if_neg (Nat.not_lt.mpr h)

/-- A pair of surrogates is the code units of the code point it stands for. -/
theorem units_ofPair {high low : CodePoint} (h : high.IsHigh ∧ low.IsLow) :
    (ofPair high low h).units = [high, low] := by
  have hbounds := h
  obtain ⟨⟨_, _⟩, _, _⟩ := hbounds
  have hhigh : (ofPair high low h).highHalf = high := by
    apply ext
    dsimp only [ofPair, highHalf]
    omega
  have hlow : (ofPair high low h).lowHalf = low := by
    apply ext
    dsimp only [ofPair, lowHalf]
    omega
  rw [units_of_le (le_value_ofPair h), hhigh, hlow]

end CodePoint

namespace Text

def units (t : Text) : Text := t.flatMap CodePoint.units

theorem units_cons (c : CodePoint) (t : Text) : units (c :: t) = c.units ++ units t :=
  List.flatMap_cons

theorem units_append (s t : Text) : units (s ++ t) = units s ++ units t := List.flatMap_append

theorem joinPairs_pair {high low : CodePoint} (h : high.IsHigh ∧ low.IsLow) (t : Text) :
    joinPairs (high :: low :: t) = CodePoint.ofPair high low h :: joinPairs t := by
  rw [joinPairs, dif_pos h]

theorem joinPairs_cons {c : CodePoint} {t : Text}
    (h : ∀ d, t.head? = some d → ¬(c.IsHigh ∧ d.IsLow)) :
    joinPairs (c :: t) = c :: joinPairs t := by
  cases t with
  | nil => rfl
  | cons d t => rw [joinPairs, dif_neg (h d rfl)]

/-- The first code unit of a code point is a low surrogate only if the code point is. -/
theorem isLow_of_head?_units {c d : CodePoint} {t : Text} (hd : (units (c :: t)).head? = some d)
    (hlow : d.IsLow) :
    c.IsLow := by
  rw [units_cons] at hd
  by_cases hc : c.value < 0x10000
  · rw [CodePoint.units_of_lt hc] at hd
    obtain rfl := Option.some.inj hd
    exact hlow
  · rw [CodePoint.units_of_le (Nat.le_of_not_lt hc)] at hd
    obtain rfl := Option.some.inj hd
    have hle := c.isPair_halves.1.2
    have hge := hlow.1
    omega

/-- As long as no pair begins with it, a code point and its code units are joined alike. -/
theorem joinPairs_units_cons {c : CodePoint} {t : Text}
    (h : ∀ d, t.head? = some d → ¬(c.IsHigh ∧ d.IsLow)) :
    joinPairs (units (c :: t)) = c :: joinPairs (units t) := by
  rw [units_cons]
  by_cases hc : c.value < 0x10000
  · rw [CodePoint.units_of_lt hc]
    refine joinPairs_cons fun d hd hpair ↦ ?_
    cases t with
    | nil => cases hd
    | cons e t => exact h e rfl ⟨hpair.1, isLow_of_head?_units hd hpair.2⟩
  · rw [CodePoint.units_of_le (Nat.le_of_not_lt hc)]
    change joinPairs (c.highHalf :: c.lowHalf :: units t) = c :: joinPairs (units t)
    rw [joinPairs_pair c.isPair_halves, CodePoint.ofPair_halves (Nat.le_of_not_lt hc)]

/-- Joining pairs gives the same from a text and from its code units. -/
theorem joinPairs_units (t : Text) : joinPairs t.units = joinPairs t := by
  fun_induction joinPairs t with
  | case1 => rfl
  | case2 c => exact joinPairs_units_cons (by simp)
  | case3 c d t h ih =>
      -- surrogates are code units themselves
      have hc : c.units = [c] := CodePoint.units_of_lt (by have := h.1.2; omega)
      have hd : d.units = [d] := CodePoint.units_of_lt (by have := h.2.2; omega)
      rw [units_cons, units_cons, hc, hd, List.singleton_append, List.singleton_append,
        joinPairs_pair h, ih]
  | case4 c d t h ih =>
      rw [joinPairs_units_cons, ih]
      intro e he
      obtain rfl := Option.some.inj he
      exact h

/-- Joining pairs keeps the code units. -/
theorem units_joinPairs (t : Text) : units (joinPairs t) = units t := by
  fun_induction joinPairs t with
  | case1 => rfl
  | case2 c => rfl
  | case3 c d t h ih =>
      have hc : c.units = [c] := CodePoint.units_of_lt (by have := h.1.2; omega)
      have hd : d.units = [d] := CodePoint.units_of_lt (by have := h.2.2; omega)
      rw [units_cons, units_cons, units_cons, CodePoint.units_ofPair, ih, hc, hd]
      rfl
  | case4 c d t h ih => rw [units_cons, units_cons, ih]

/-- Texts are the same with their pairs joined exactly if they have the same code units. -/
theorem joinPairs_eq_joinPairs_iff {s t : Text} :
    joinPairs s = joinPairs t ↔ s.units = t.units := by
  constructor
  · intro h
    rw [← units_joinPairs s, h, units_joinPairs]
  · intro h
    rw [← joinPairs_units s, h, joinPairs_units]

/-! ### Joined texts -/

def Joined (t : Text) : Prop :=
  ∀ high low : CodePoint, high.IsHigh → low.IsLow → ¬ [high, low] <:+: t

theorem joined_nil : Joined [] := by
  intro high low _ _ hpair
  cases List.infix_nil.mp hpair

theorem joined_cons_iff {c : CodePoint} {t : Text} :
    Joined (c :: t) ↔ (∀ d, t.head? = some d → ¬(c.IsHigh ∧ d.IsLow)) ∧ Joined t := by
  constructor
  · intro h
    refine ⟨?_, fun high low hhigh hlow hpair ↦ h high low hhigh hlow (List.infix_cons hpair)⟩
    rintro d hd ⟨hc, hlow⟩
    obtain ⟨rest, rfl⟩ := List.head?_eq_some_iff.mp hd
    exact h c d hc hlow ⟨[], rest, rfl⟩
  · rintro ⟨hhead, ht⟩ high low hhigh hlow hpair
    rcases List.infix_cons_iff.mp hpair with ⟨rest, hbegins⟩ | hlater
    · obtain ⟨rfl, rfl⟩ := List.cons.inj hbegins
      exact hhead low rfl ⟨hhigh, hlow⟩
    · exact ht high low hhigh hlow hlater

/-- A text with its pairs joined begins with a low surrogate only if the text does. -/
theorem isLow_of_head?_joinPairs {c d : CodePoint} {t : Text}
    (hd : (joinPairs (c :: t)).head? = some d) (hlow : d.IsLow) : c.IsLow := by
  obtain ⟨rest, hrest⟩ := List.head?_eq_some_iff.mp hd
  have hunit : d.units = [d] := CodePoint.units_of_lt (by have := hlow.2; omega)
  have hunits : units (c :: t) = d :: units rest := by
    rw [← units_joinPairs, hrest, units_cons, hunit, List.singleton_append]
  exact isLow_of_head?_units (t := t) (by rw [hunits, List.head?_cons]) hlow

/-- A low surrogate that is left stands behind no high one. -/
theorem joined_joinPairs (t : Text) : Joined (joinPairs t) := by
  fun_induction joinPairs t with
  | case1 => exact joined_nil
  | case2 c => exact joined_cons_iff.mpr ⟨by simp, joined_nil⟩
  | case3 c d t h ih =>
      -- the code point of a pair lies beyond all surrogates
      refine joined_cons_iff.mpr ⟨fun e _ hpair ↦ ?_, ih⟩
      have hle := hpair.1.2
      have hge := CodePoint.le_value_ofPair h
      omega
  | case4 c d t h ih =>
      refine joined_cons_iff.mpr ⟨fun e he hpair ↦ ?_, ih⟩
      exact h ⟨hpair.1, isLow_of_head?_joinPairs he hpair.2⟩

theorem joinPairs_of_joined {t : Text} (h : Joined t) : joinPairs t = t := by
  induction t with
  | nil => rfl
  | cons c t ih =>
      obtain ⟨hhead, ht⟩ := joined_cons_iff.mp h
      rw [joinPairs_cons hhead, ih ht]

/-- Joining pairs gives the normal form of a text among those with the same code units: equal for
two texts exactly if their code units are, joined, and the text itself if that is joined already.
So pairs may be joined in a part of a text before it is put together with others. -/
theorem joinPairs_normalizes :
    (∀ s t : Text, joinPairs s = joinPairs t ↔ s.units = t.units) ∧
      (∀ t : Text, (joinPairs t).Joined) ∧
      (∀ t : Text, joinPairs t = t ↔ t.Joined) ∧
      ∀ a b c : Text, joinPairs (a ++ joinPairs b ++ c) = joinPairs (a ++ b ++ c) := by
  refine ⟨fun s t ↦ joinPairs_eq_joinPairs_iff, joined_joinPairs, ?_, ?_⟩
  · intro t
    constructor
    · intro h
      rw [← h]
      exact joined_joinPairs t
    · exact joinPairs_of_joined
  · intro a b c
    rw [joinPairs_eq_joinPairs_iff]
    simp only [units_append, units_joinPairs]

end Text

end CallAudit
