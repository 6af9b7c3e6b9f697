import CallAudit.Number.Literal
import CallAudit.Proofs.KeyValues

/-!
# Integer literals

JavaScript writes a natural number in many ways: in four bases, in either case of the letters, with
separators between the digits, as a big integer, and in the old notations that begin with a zero.
All of them are read as the same number, so that they are the same property key.  Reading them takes
the underscores, the case and the suffix away first; what is left are the digits of one base, and no
notation can be taken for another.  Below `2 ^ 53` no digit is lost to rounding.
-/

namespace CallAudit

/-! ### Numbers that need no rounding -/

namespace Binary64

theorem roundDiv_mul {den : Nat} (h : 0 < den) (q : Nat) : roundDiv (q * den) den = q := by
  rw [roundDiv, Nat.mul_div_cancel _ h, Nat.mul_mod_left]
  exact if_pos (.inl h)

theorem log2_mul_two_pow {n : Nat} (hn : n ≠ 0) (k : Nat) : (n * 2 ^ k).log2 = n.log2 + k := by
  have hpos : 0 < 2 ^ k := Nat.two_pow_pos k
  have hproduct : n * 2 ^ k ≠ 0 := Nat.mul_ne_zero hn (Nat.ne_of_gt hpos)
  apply (Nat.log2_eq_iff hproduct).mpr
  constructor
  · rw [Nat.pow_add]
    exact Nat.mul_le_mul_right _ (Nat.log2_self_le hn)
  · rw [Nat.add_right_comm, Nat.pow_add]
    exact Nat.mul_lt_mul_of_pos_right Nat.lt_log2_self hpos

/-- A number with at most 53 bits is kept as it is, moved so far to the left that it has exactly
53. -/
theorem exists_ofUnits?_eq {n k : Nat} (hn : n < 2 ^ 53) (hk : 52 ≤ k) (hle : k ≤ 2045) :
    ∃ significand scale, ofUnits? false (n * Nat.pow 2 k) 1 =
      some (finite false significand scale) ∧
      significand * Nat.pow 2 scale = n * Nat.pow 2 k := by
  by_cases hzero : n = 0
  · subst hzero
    rw [Nat.zero_mul]
    exact ⟨0, 0, by decide, Nat.zero_mul _⟩
  · have hbits : n.log2 ≤ 52 := Nat.lt_succ_iff.mp ((Nat.log2_lt hzero).mpr hn)
    have hmoved : n * 2 ^ k = n * 2 ^ (52 - n.log2) * 2 ^ (n.log2 + k - 52) := by
      rw [Nat.mul_assoc, ← Nat.pow_add, show 52 - n.log2 + (n.log2 + k - 52) = k by omega]
    have hscale : (n * 2 ^ k).log2 + 1 - 53 = n.log2 + k - 52 := by
      rw [log2_mul_two_pow hzero]
      omega
    have hfits : n * 2 ^ (52 - n.log2) ≠ 2 ^ 53 := by
      apply Nat.ne_of_lt
      calc n * 2 ^ (52 - n.log2) < 2 ^ (n.log2 + 1) * 2 ^ (52 - n.log2) :=
            Nat.mul_lt_mul_of_pos_right Nat.lt_log2_self (Nat.two_pow_pos _)
        _ = 2 ^ 53 := by rw [← Nat.pow_add, show n.log2 + 1 + (52 - n.log2) = 53 by omega]
    have hround : roundDiv (n * 2 ^ k) (2 ^ (n.log2 + k - 52)) = n * 2 ^ (52 - n.log2) := by
      rw [hmoved]
      exact roundDiv_mul (Nat.two_pow_pos _) _
    refine ⟨n * 2 ^ (52 - n.log2), n.log2 + k - 52, ?_, hmoved.symm⟩
    simp only [ofUnits?, Nat.pow_eq, Nat.div_one, Nat.one_mul, hscale, hround, if_neg hfits]
    exact if_pos (by omega)

/-- Numbers below `2 ^ 53` are kept exactly. -/
theorem exists_ofNat?_eq {n : Nat} (hn : n < 2 ^ 53) :
    ∃ x, ofNat? n = some x ∧ x.toNat? = some n := by
  obtain ⟨significand, scale, hunits, hvalue⟩ :=
    exists_ofUnits?_eq hn (show 52 ≤ unitScale by decide) (by decide)
  refine ⟨finite false significand scale, ?_, ?_⟩
  · rw [ofNat?, ofRatio?, hunits]
  · have hunit : ∀ k, 0 < Nat.pow 2 k := Nat.two_pow_pos
    have hnatural : natural? significand scale = some n := by
      rw [natural?, hvalue, Nat.mul_mod_left, Nat.mul_div_cancel _ (hunit unitScale)]
      rfl
    rw [toNat?, hnatural]
    rfl

theorem toNat?_ofDecimal {n : Nat} (hn : n < 2 ^ 53) : (ofDecimal false n 0).toNat? = some n := by
  by_cases hzero : n = 0
  · subst hzero
    decide +kernel
  · obtain ⟨x, hx, hvalue⟩ := exists_ofNat?_eq hn
    have hratio : ofRatio? false (n * Nat.pow 10 (0 : Int).toNat) (Nat.pow 10 (-(0 : Int)).toNat) =
        some x := by
      rw [show Nat.pow 10 (0 : Int).toNat = 1 from rfl,
        show Nat.pow 10 (-(0 : Int)).toNat = 1 from rfl, Nat.mul_one, ← ofNat?, hx]
    rw [ofDecimal, if_neg hzero, if_neg (by decide), if_neg (by omega)]
    simp only [hratio, Option.getD_some]
    exact hvalue

end Binary64

/-! ### Notations of integers -/

namespace NumericLiteral

def digitPoint (d : Nat) : CodePoint := .ofChar d.digitChar

/-- A digit of a base, a letter counting in either case. -/
structure IsDigit (base : Nat) (c : CodePoint) (d : Nat) : Prop where
  lt : d < base
  lower : c.asciiLower = digitPoint d

/-- Digits of a base with the number that they write.  If separators are allowed, one may stand
before every digit but the first. -/
inductive Writes (base : Nat) (separators : Bool) : Text → Nat → Prop
  | first {c : CodePoint} {d : Nat} (h : IsDigit base c d) : Writes base separators [c] d
  | next {t : Text} {n : Nat} {c : CodePoint} {d : Nat} (ht : Writes base separators t n)
      (h : IsDigit base c d) :
      Writes base separators (t ++ [c]) (n * base + d)
  | separated {t : Text} {n : Nat} {c : CodePoint} {d : Nat} (ht : Writes base separators t n)
      (h : IsDigit base c d) (hallowed : separators = true) :
      Writes base separators (t ++ [.ofChar '_', c]) (n * base + d)

def radixLetters : List (Char × Nat) := [('x', 16), ('o', 8), ('b', 2)]

/-- The notations that have separators, and to which the suffix of big integers can be put. -/
inductive Plain : Text → Nat → Prop
  | zero : Plain ['0'] 0
  | decimal {c : CodePoint} {t : Text} {n : Nat} (h : Writes 10 true (c :: t) n) (hc : c ≠ '0') :
      Plain (c :: t) n
  | radix {letter : Char} {base : Nat} {c : CodePoint} {t : Text} {n : Nat}
      (hletter : (letter, base) ∈ radixLetters) (hc : c.asciiLower = letter)
      (h : Writes base true t n) : Plain ('0' :: c :: t) n

/-- The old notations, in which a zero comes first.  The digits are octal unless an 8 or a 9 is
among them. -/
inductive Legacy : Text → Nat → Prop
  | octal {t : Text} {n : Nat} (h : Writes 8 false t n) : Legacy ('0' :: t) n
  | decimal {t : Text} {n : Nat} (h : Writes 10 false t n) (hdigit : ∃ c ∈ t, c = '8' ∨ c = '9') :
      Legacy ('0' :: t) n

inductive IsInteger : Text → Nat → Prop
  | number {t : Text} {n : Nat} (h : Plain t n) : IsInteger t n
  | bigInteger {t : Text} {n : Nat} (h : Plain t n) : IsInteger (t ++ [.ofChar 'n']) n
  | legacy {t : Text} {n : Nat} (h : Legacy t n) : IsInteger t n

/-! ### Digits without separators -/

def folded (raw : Text) : Text := Text.asciiLower (raw.filter (· ≠ '_'))

theorem folded_append (s t : Text) : folded (s ++ t) = folded s ++ folded t := by
  rw [folded, List.filter_append, Text.asciiLower, List.map_append]
  rfl

theorem folded_singleton {c d : CodePoint} (hc : c.asciiLower = d) (hd : d ≠ '_') :
    folded [c] = [d] := by
  have hne : c ≠ '_' := by
    rintro rfl
    exact hd hc.symm
  rw [folded, List.filter_cons_of_pos (by simpa using hne), List.filter_nil, Text.asciiLower,
    List.map_singleton, hc]

theorem folded_cons {c d : CodePoint} (hc : c.asciiLower = d) (hd : d ≠ '_') (t : Text) :
    folded (c :: t) = d :: folded t := by
  rw [← List.singleton_append, folded_append, folded_singleton hc hd]
  rfl

theorem strip_eq (raw : Text) :
    strip raw =
      if (folded raw).getLast? = some (.ofChar 'n') then (folded raw).dropLast else folded raw :=
  rfl

section Digits

variable {base d n : Nat} {ds : List Nat}

theorem digitPoint_ne (hd : d < 16) {c : CodePoint} (hc : c.digit? 16 = none) :
    digitPoint d ≠ c := by
  have hsome : ∀ d < 16, (digitPoint d).digit? 16 = some d := by decide
  rintro rfl
  rw [hsome d hd] at hc
  cases hc

theorem IsDigit.folded_eq {c : CodePoint} (h : IsDigit base c d) (hbase : base ≤ 16) :
    folded [c] = [digitPoint d] :=
  folded_singleton h.lower (digitPoint_ne (Nat.lt_of_lt_of_le h.lt hbase) (by decide))

theorem ofDigits_concat (ds : List Nat) (d : Nat) :
    Numeral.ofDigits base (ds ++ [d]) = Numeral.ofDigits base ds * base + d := by
  rw [Numeral.ofDigits, List.foldl_append]
  rfl

/-- Without separators and capitals, the written digits are those of the number in the base. -/
theorem Writes.exists_digits {separators : Bool} {t : Text} (h : Writes base separators t n)
    (hbase : base ≤ 16) :
    ∃ ds, ds ≠ [] ∧ (∀ d ∈ ds, d < base) ∧ folded t = ds.map digitPoint ∧
      Numeral.ofDigits base ds = n := by
  have hnext : ∀ {ds : List Nat} {c d}, (∀ d ∈ ds, d < base) → IsDigit base c d →
      ∀ d' ∈ ds ++ [d], d' < base := by
    intro ds c d hds hc
    exact List.forall_mem_append.mpr ⟨hds, List.forall_mem_singleton.mpr hc.lt⟩
  induction h with
  | @first c d hc =>
      refine ⟨[d], by simp, List.forall_mem_singleton.mpr hc.lt, hc.folded_eq hbase, ?_⟩
      rw [Numeral.ofDigits, List.foldl_cons, Nat.zero_mul, Nat.zero_add, List.foldl_nil]
  | @next t n c d _ hc ih =>
      obtain ⟨ds, -, hds, htext, rfl⟩ := ih
      refine ⟨ds ++ [d], by simp, hnext hds hc, ?_, ofDigits_concat ds d⟩
      rw [folded_append, hc.folded_eq hbase, htext, List.map_append]
      rfl
  | @separated t n c d _ hc _ ih =>
      obtain ⟨ds, -, hds, htext, rfl⟩ := ih
      refine ⟨ds ++ [d], by simp, hnext hds hc, ?_, ofDigits_concat ds d⟩
      rw [← List.singleton_append, folded_append, folded_append, hc.folded_eq hbase, htext,
        List.map_append]
      rfl

theorem Writes.exists_head {separators : Bool} {t : Text} (h : Writes base separators t n) :
    ∃ c rest d, t = c :: rest ∧ IsDigit base c d := by
  induction h with
  | @first c d hc => exact ⟨c, [], d, rfl, hc⟩
  | next _ _ ih | separated _ _ _ ih =>
      obtain ⟨c, rest, d, rfl, hc⟩ := ih
      exact ⟨c, _, d, rfl, hc⟩

def EndsInDigit (t : Text) : Prop := ∃ before d, d < 16 ∧ folded t = before ++ [digitPoint d]

theorem EndsInDigit.cons {t : Text} (h : EndsInDigit t) (c : CodePoint) : EndsInDigit (c :: t) := by
  obtain ⟨before, d, hd, ht⟩ := h
  refine ⟨folded [c] ++ before, d, hd, ?_⟩
  rw [← List.singleton_append, folded_append, ht, List.append_assoc]

theorem Writes.endsInDigit {separators : Bool} {t : Text} (h : Writes base separators t n)
    (hbase : base ≤ 16) :
    EndsInDigit t := by
  cases h with
  | first hc => exact ⟨[], n, Nat.lt_of_lt_of_le hc.lt hbase, hc.folded_eq hbase⟩
  | @next t _ c d _ hc =>
      refine ⟨folded t, d, Nat.lt_of_lt_of_le hc.lt hbase, ?_⟩
      rw [folded_append, hc.folded_eq hbase]
  | @separated t _ c d _ hc =>
      refine ⟨folded (t ++ [.ofChar '_']), d, Nat.lt_of_lt_of_le hc.lt hbase, ?_⟩
      rw [← hc.folded_eq hbase, ← folded_append, List.append_assoc]
      rfl

/-- A text that ends in a digit has no suffix to be taken away. -/
theorem EndsInDigit.strip_eq {t : Text} (h : EndsInDigit t) : strip t = folded t := by
  obtain ⟨before, d, hd, ht⟩ := h
  rw [NumericLiteral.strip_eq, ht, List.getLast?_concat, if_neg]
  intro hlast
  exact digitPoint_ne hd (by decide) (Option.some.inj hlast)

theorem strip_bigInteger (t : Text) : strip (t ++ [.ofChar 'n']) = folded t := by
  have hsuffix : folded [.ofChar 'n'] = [.ofChar 'n'] := by decide
  rw [strip_eq, folded_append, hsuffix, List.getLast?_concat, if_pos rfl, List.dropLast_concat]

/-! ### Reading the digits -/

theorem trimEndBy_of_forall {p : CodePoint → Bool} {t : Text} (h : ∀ c ∈ t, p c = false) :
    t.trimEndBy p = t := by
  have hnone : t.reverse.dropWhile p = t.reverse := by
    cases ht : t.reverse with
    | nil => rfl
    | cons c rest =>
        apply List.dropWhile_cons_of_neg
        rw [h c (List.mem_reverse.mp (ht ▸ List.mem_cons_self))]
        decide
  rw [Text.trimEndBy, hnone, List.reverse_reverse]

theorem trimBy_of_forall {p : CodePoint → Bool} {t : Text} (h : ∀ c ∈ t, p c = false) :
    t.trimBy p = t := by
  have hnone : t.dropWhile p = t := by
    cases t with
    | nil => rfl
    | cons c rest =>
        apply List.dropWhile_cons_of_neg
        rw [h c List.mem_cons_self]
        decide
  rw [Text.trimBy, hnone, trimEndBy_of_forall h]

theorem isNumeralBlank_of_mem (hds : ∀ d ∈ ds, d < 16) :
    ∀ c ∈ ds.map digitPoint, c.isNumeralBlank = false := by
  have hblank : ∀ d < 16, (digitPoint d).isNumeralBlank = false := by decide
  exact List.forall_mem_map.mpr fun d hd ↦ hblank d (hds d hd)

theorem mapM_digits (f : CodePoint → Option Nat) (hf : ∀ d ∈ ds, f (digitPoint d) = some d) :
    (ds.map digitPoint).mapM f = some ds := by
  induction ds with
  | nil => rfl
  | cons d ds ih =>
      obtain ⟨hd, hds⟩ := List.forall_mem_cons.mp hf
      rw [List.map_cons, List.mapM_cons, hd, ih hds]
      rfl

theorem digits?_digits (hne : ds ≠ []) (hbase : base ≤ 16) (hds : ∀ d ∈ ds, d < base) :
    digits? base (ds.map digitPoint) = some ds := by
  have hread : ∀ base < 17, ∀ d < base,
      ((digitPoint d).decimal?.filter (· < base)).or ((digitPoint d).digit? base) = some d := by
    decide
  rw [digits?, if_neg (by simpa using hne)]
  exact mapM_digits _ fun d hd ↦ hread base (Nat.lt_succ_of_le hbase) d (hds d hd)

theorem mapM_octal_eq_none (hds : ∀ d ∈ ds, d < 10) (h : ∃ d ∈ ds, 8 ≤ d) :
    (ds.map digitPoint).mapM (CodePoint.digit? 8) = none := by
  have hread : ∀ d < 8, (digitPoint d).digit? 8 = some d := by decide
  have hrefused : ∀ d < 10, 8 ≤ d → (digitPoint d).digit? 8 = none := by decide
  induction ds with
  | nil => simp at h
  | cons d ds ih =>
      obtain ⟨hd, hrest⟩ := List.forall_mem_cons.mp hds
      rw [List.map_cons, List.mapM_cons]
      by_cases hlarge : 8 ≤ d
      · rw [hrefused d hd hlarge]
        rfl
      · have hlater : ∃ e ∈ ds, 8 ≤ e := by simpa [hlarge] using h
        rw [hread d (Nat.lt_of_not_le hlarge), ih hrest hlater]
        rfl

theorem spanDigits_digits (hds : ∀ d ∈ ds, d < 10) :
    Numeral.spanDigits (ds.map digitPoint) = (ds, []) := by
  have hread : ∀ d < 10, (digitPoint d).decimal? = some d := by decide
  induction ds with
  | nil => rfl
  | cons d ds ih =>
      obtain ⟨hd, hrest⟩ := List.forall_mem_cons.mp hds
      rw [List.map_cons, Numeral.spanDigits, hread d hd, ih hrest]

/-- Plain digits are read as a decimal without a fraction or an exponent. -/
theorem decimal?_digits (hne : ds ≠ []) (hds : ∀ d ∈ ds, d < 10) :
    Numeral.decimal? (ds.map digitPoint) = some (.ofDecimal false (Numeral.ofDigits 10 ds) 0) := by
  obtain ⟨d, rest, rfl⟩ := List.exists_cons_of_ne_nil hne
  have hd : d < 16 := Nat.lt_trans (hds d List.mem_cons_self) (by decide)
  have hlower : Text.asciiLower ((d :: rest).map digitPoint) = (d :: rest).map digitPoint := by
    have hpoint : ∀ d < 10, (digitPoint d).asciiLower = digitPoint d := by decide
    rw [Text.asciiLower, List.map_map]
    exact List.map_congr_left fun d hd ↦ hpoint d (hds d hd)
  have hsign :
      Numeral.spanSign ((d :: rest).map digitPoint) = (false, (d :: rest).map digitPoint) := by
    rw [List.map_cons, Numeral.spanSign, if_neg (digitPoint_ne hd (by decide)),
      if_neg (digitPoint_ne hd (by decide))]
  have hword : ∀ word : Text, word.head?.bind (CodePoint.digit? 16) = none →
      (d :: rest).map digitPoint ≠ word := by
    rintro word hhead rfl
    exact digitPoint_ne hd hhead rfl
  rw [Numeral.decimal?,
    trimBy_of_forall (isNumeralBlank_of_mem fun d hd ↦ Nat.lt_trans (hds d hd) (by decide)), hlower,
    hsign]
  dsimp only
  rw [if_neg (not_or_intro (hword "inf" (by decide)) (hword "infinity" (by decide))),
    if_neg (hword "nan" (by decide)), Numeral.unsigned?, spanDigits_digits hds]
  simp [Numeral.exponent?]

end Digits

/-! ### Values of literals -/

section

variable {raw : Text} {n : Nat} {ds : List Nat}

theorem value?_of_radix {letter : Char} {base : Nat} (hletter : (letter, base) ∈ radixLetters)
    (hne : ds ≠ []) (hds : ∀ d ∈ ds, d < base)
    (hraw : strip raw = .ofChar '0' :: .ofChar letter :: ds.map digitPoint) :
    value? raw = Binary64.ofNat? (Numeral.ofDigits base ds) := by
  have hradix : ∀ entry ∈ radixLetters, radix? (CodePoint.ofChar entry.1) = some entry.2 ∧
      entry.2 ≤ 16 := by decide
  obtain ⟨hradix, hbase⟩ := hradix _ hletter
  dsimp only at hradix hbase
  have hblank : Text.trimEndBy CodePoint.isNumeralBlank (ds.map digitPoint) = ds.map digitPoint :=
    trimEndBy_of_forall (isNumeralBlank_of_mem fun d hd ↦ Nat.lt_of_lt_of_le (hds d hd) hbase)
  unfold value?
  rw [hraw]
  dsimp only
  rw [if_pos rfl, hradix]
  dsimp only
  rw [hblank, digits?_digits hne hbase hds, Option.bind_some]

theorem radix?_digitPoint {d : Nat} (hd : d < 10) : radix? (digitPoint d) = none := by
  have hnone : ∀ d < 10, radix? (digitPoint d) = none := by decide
  exact hnone d hd

/-- Digits after a zero are octal if all of them can be. -/
theorem value?_of_octal (hne : ds ≠ []) (hds : ∀ d ∈ ds, d < 8)
    (hraw : strip raw = .ofChar '0' :: ds.map digitPoint) :
    value? raw = Binary64.ofNat? (Numeral.ofDigits 8 ds) := by
  obtain ⟨d, rest, rfl⟩ := List.exists_cons_of_ne_nil hne
  have hread : ∀ d < 8, (digitPoint d).digit? 8 = some d := by decide
  have hoctal := mapM_digits (CodePoint.digit? 8) fun d hd ↦ hread d (hds d hd)
  have hradix : radix? (digitPoint d) = none :=
    radix?_digitPoint (Nat.lt_trans (hds d List.mem_cons_self) (by decide))
  rw [List.map_cons] at hraw hoctal
  unfold value?
  rw [hraw]
  dsimp only
  rw [if_pos rfl, hradix]
  dsimp only
  rw [hoctal]

/-- Digits are decimal if there is only one of them, if they do not begin with a zero, or if one is
too large to be octal. -/
theorem value?_of_decimal {d : Nat} (hds : ∀ e ∈ d :: ds, e < 10)
    (hraw : strip raw = (d :: ds).map digitPoint)
    (h : ds = [] ∨ digitPoint d ≠ '0' ∨ ∃ e ∈ ds, 8 ≤ e) :
    value? raw = some (.ofDecimal false (Numeral.ofDigits 10 (d :: ds)) 0) := by
  have hdecimal := decimal?_digits (List.cons_ne_nil d ds) hds
  rw [List.map_cons] at hraw hdecimal
  cases ds with
  | nil => simp only [value?, hraw, List.map_nil] at hdecimal ⊢; exact hdecimal
  | cons e rest =>
      simp only [value?, hraw, List.map_cons] at hdecimal ⊢
      by_cases hzero : digitPoint d = '0'
      · have hlarge : ∃ c ∈ e :: rest, 8 ≤ c := by simpa [hzero] using h
        have htail : ∀ c ∈ e :: rest, c < 10 := fun c hc ↦ hds c (List.mem_cons_of_mem d hc)
        have hradix : radix? (digitPoint e) = none := radix?_digitPoint (htail e List.mem_cons_self)
        have hoctal := mapM_octal_eq_none htail hlarge
        rw [List.map_cons] at hoctal
        rw [if_pos hzero, hradix, hoctal]
        exact hdecimal
      · rw [if_neg hzero]
        exact hdecimal

theorem asciiLower_ne_zero {c : CodePoint} (hc : c ≠ '0') : c.asciiLower ≠ '0' := by
  unfold CodePoint.asciiLower
  split
  · intro h
    have hvalue : c.value + 0x20 = 0x30 := congrArg CodePoint.value h
    omega
  · exact hc

theorem radixLetters_ne :
    ∀ entry ∈ radixLetters, CodePoint.ofChar entry.1 ≠ '_' ∧ entry.2 ≤ 16 := by decide

theorem Plain.endsInDigit {t : Text} (h : Plain t n) : EndsInDigit t := by
  cases h with
  | zero => exact ⟨[], 0, by decide, by decide⟩
  | decimal h hc => exact h.endsInDigit (by decide)
  | radix hletter hc h => exact ((h.endsInDigit (radixLetters_ne _ hletter).2).cons _).cons _

theorem Legacy.endsInDigit {t : Text} (h : Legacy t n) : EndsInDigit t := by
  cases h with
  | octal h | decimal h _ => exact (h.endsInDigit (by decide)).cons _

theorem folded_zero_cons (t : Text) : folded (.ofChar '0' :: t) = .ofChar '0' :: folded t :=
  folded_cons (by decide) (by decide) t

theorem Plain.exists_value {t : Text} (h : Plain t n) (hn : n < 2 ^ 53)
    (hraw : strip raw = folded t) :
    ∃ x, value? raw = some x ∧ x.toNat? = some n := by
  cases h with
  | zero =>
      refine ⟨_, value?_of_decimal (show ∀ d ∈ [0], d < 10 by decide) (hraw.trans (by decide))
        (.inl rfl), ?_⟩
      exact Binary64.toNat?_ofDecimal hn
  | @decimal c t _ h hc =>
      obtain ⟨ds, hne, hds, htext, rfl⟩ := h.exists_digits (by decide)
      obtain ⟨d, rest, rfl⟩ := List.exists_cons_of_ne_nil hne
      obtain ⟨_, _, e, ⟨⟩, he⟩ := h.exists_head
      have hfirst : digitPoint d ≠ '0' := by
        rw [folded_cons he.lower (digitPoint_ne (Nat.lt_trans he.lt (by decide)) (by decide)),
          List.map_cons] at htext
        rw [← (List.cons.inj htext).1, ← he.lower]
        exact asciiLower_ne_zero hc
      exact ⟨_, value?_of_decimal hds (hraw.trans htext) (.inr (.inl hfirst)),
        Binary64.toNat?_ofDecimal hn⟩
  | @radix letter base c t _ hletter hc h =>
      obtain ⟨hunderscore, hbase⟩ := radixLetters_ne _ hletter
      obtain ⟨ds, hne, hds, htext, rfl⟩ := h.exists_digits hbase
      rw [folded_zero_cons, folded_cons hc hunderscore, htext] at hraw
      rw [value?_of_radix hletter hne hds hraw]
      exact Binary64.exists_ofNat?_eq hn

theorem Legacy.exists_value {t : Text} (h : Legacy t n) (hn : n < 2 ^ 53)
    (hraw : strip raw = folded t) :
    ∃ x, value? raw = some x ∧ x.toNat? = some n := by
  cases h with
  | octal h =>
      obtain ⟨ds, hne, hds, htext, rfl⟩ := h.exists_digits (by decide)
      rw [folded_zero_cons, htext] at hraw
      rw [value?_of_octal hne hds hraw]
      exact Binary64.exists_ofNat?_eq hn
  | @decimal t _ h hdigit =>
      obtain ⟨ds, hne, hds, htext, rfl⟩ := h.exists_digits (by decide)
      have hlarge : ∃ d ∈ ds, 8 ≤ d := by
        have hsmall : ∀ d < 8, digitPoint d ≠ '8' ∧ digitPoint d ≠ '9' := by decide
        obtain ⟨c, hc, hvalue⟩ := hdigit
        have hkept : c.asciiLower = c ∧ c ≠ '_' := by
          rcases hvalue with rfl | rfl
          · decide
          · decide
        have hmem : c ∈ folded t :=
          List.mem_map.mpr ⟨c, List.mem_filter.mpr ⟨hc, decide_eq_true hkept.2⟩, hkept.1⟩
        rw [htext] at hmem
        obtain ⟨d, hd, rfl⟩ := List.mem_map.mp hmem
        refine ⟨d, hd, Nat.le_of_not_lt fun hlt ↦ ?_⟩
        exact hvalue.elim (hsmall d hlt).1 (hsmall d hlt).2
      rw [folded_zero_cons, htext] at hraw
      have hzero : ∀ d ∈ 0 :: ds, d < 10 := List.forall_mem_cons.mpr ⟨by decide, hds⟩
      refine ⟨_, value?_of_decimal hzero hraw (.inr (.inr hlarge)), ?_⟩
      have hvalue : Numeral.ofDigits 10 (0 :: ds) = Numeral.ofDigits 10 ds := by
        rw [Numeral.ofDigits, List.foldl_cons]
        rfl
      rw [hvalue]
      exact Binary64.toNat?_ofDecimal hn

end

/-- Every literal of a natural number below `2 ^ 53` is read as that number, whose key is its
decimal digits. -/
theorem value?_of_isInteger (raw : Text) (n : Nat) (h : IsInteger raw n) (hn : n < 2 ^ 53) :
    ∃ x, value? raw = some x ∧ x.toNat? = some n ∧ x.canonical = Text.ofNat n := by
  obtain ⟨x, hx, hnat⟩ : ∃ x, value? raw = some x ∧ x.toNat? = some n := by
    cases h with
    | number h => exact h.exists_value hn h.endsInDigit.strip_eq
    | bigInteger h => exact h.exists_value hn (strip_bigInteger _)
    | legacy h => exact h.exists_value hn h.endsInDigit.strip_eq
  exact ⟨x, hx, hnat, Binary64.canonical_of_toNat? hnat⟩

theorem value?_of_isInteger_mixedSpelling :
    IsInteger ("0X0_fFn" : Text) 255 ∧
      ∃ x, value? "0X0_fFn" = some x ∧ x.toNat? = some 255 ∧ x.canonical = ("255" : Text) := by
  have hsmall : IsDigit 16 (.ofChar 'f') 15 := ⟨by decide, by decide⟩
  have hcapital : IsDigit 16 (.ofChar 'F') 15 := ⟨by decide, by decide⟩
  have hzero : Writes 16 true [.ofChar '0'] 0 := .first ⟨by decide, by decide⟩
  have hdigits := (hzero.separated hsmall rfl).next hcapital
  have hplain :=
    Plain.radix (show ('x', 16) ∈ radixLetters by decide)
      (show CodePoint.asciiLower 'X' = 'x' by decide) hdigits
  have hinteger : IsInteger ("0X0_fFn" : Text) 255 := .bigInteger hplain
  obtain ⟨x, hx, hnat, hkey⟩ := value?_of_isInteger _ _ hinteger (by decide)
  exact ⟨hinteger, x, hx, hnat, hkey.trans (by decide)⟩

end NumericLiteral

end CallAudit
