import CallAudit.Proofs.LiteralValues

/-!
# Escaped spellings of texts

A text can be written as a literal in many ways.  Each of its code points is spelled by itself, by
its number in one of three forms, by a letter, or by itself behind a backslash, and lines may be
continued between any two of them.  No spelling takes anything from the one that follows it, so that
reading the literal gives back the text, with its surrogate pairs joined.
-/

namespace CallAudit

theorem CodePoint.digit?_asciiLower (base : Nat) (c : CodePoint) :
    c.asciiLower.digit? base = c.digit? base := by
  unfold asciiLower
  split
  · next hupper =>
    have hlower : CodePoint.within ⟨c.value + 0x20, by omega⟩ 0x61 0x7A = true := by
      simp [within]; omega
    have hbelow : CodePoint.within ⟨c.value + 0x20, by omega⟩ 0x30 0x39 = false := by
      simp [within]; omega
    have hdigit : c.within 0x30 0x39 = false := by simp [within]; omega
    have hsmall : c.within 0x61 0x7A = false := by simp [within]; omega
    have hlarge : c.within 0x41 0x5A = true := by simp [within]; omega
    have hvalue : c.value + 0x20 - 0x61 = c.value - 0x41 := by omega
    simp [digit?, hlower, hbelow, hdigit, hsmall, hlarge, hvalue]
  · rfl

namespace StringLiteral

/-! ### Hexadecimal digits -/

section

variable {base n width : Nat} {digits : Text}

theorem numeral_concat (base : Nat) (digits : Text) (d : CodePoint) :
    numeral base (digits ++ [d]) = numeral base digits * base + (d.digit? base).getD 0 := by
  rw [numeral, List.foldl_append]
  rfl

theorem isNumeral_asciiLower_iff : IsNumeral base digits.asciiLower ↔ IsNumeral base digits := by
  simp only [IsNumeral, Text.asciiLower, List.forall_mem_map, CodePoint.digit?_asciiLower]

theorem numeral_asciiLower : numeral base digits.asciiLower = numeral base digits := by
  simp only [numeral, Text.asciiLower, List.foldl_map, CodePoint.digit?_asciiLower]

theorem numeral_padZeros (width : Nat) (digits : Text) :
    numeral 16 (digits.padZeros width) = numeral 16 digits := by
  have hzeros : ∀ count, numeral 16 (Text.zeros count) = 0 := by
    intro count
    induction count with
    | zero => rfl
    | succ count ih =>
        rw [Text.zeros, List.replicate_succ', numeral_concat]
        change numeral 16 (Text.zeros count) * 16 + 0 = 0
        rw [ih]
  rw [Text.padZeros, numeral, List.foldl_append]
  change digits.foldl _ (numeral 16 (Text.zeros _)) = _
  rw [hzeros]
  rfl

theorem digit?_digitChar : ∀ k < 16, (CodePoint.ofChar k.digitChar).digit? 16 = some k := by
  decide

theorem reads_toDigits (n : Nat) :
    IsNumeral 16 ((Nat.toDigits 16 n).map CodePoint.ofChar) ∧
      numeral 16 ((Nat.toDigits 16 n).map CodePoint.ofChar) = n := by
  induction n using Nat.strongRecOn with
  | _ n ih =>
      by_cases hn : n < 16
      · have hdigit := digit?_digitChar n hn
        rw [Nat.toDigits_of_lt_base hn, List.map_singleton]
        constructor
        · exact List.forall_mem_singleton.mpr (by rw [hdigit]; rfl)
        · rw [numeral, List.foldl_cons, List.foldl_nil, hdigit, Option.getD_some, Nat.zero_mul,
            Nat.zero_add]
      · obtain ⟨hbefore, hvalue⟩ := ih (n / 16) (Nat.div_lt_self (by omega) (by decide))
        have hdigit := digit?_digitChar (n % 16) (Nat.mod_lt n (by decide))
        rw [Nat.toDigits_of_base_le (by decide) (Nat.le_of_not_lt hn), List.map_append,
          List.map_singleton]
        constructor
        · exact isNumeral_concat hbefore (by rw [hdigit]; rfl)
        · rw [numeral_concat, hvalue, hdigit, Option.getD_some]
          omega

/-- Reading hexadecimal digits gives back the number that they were written for, with any zeros in
front. -/
theorem reads_hex (width n : Nat) :
    IsNumeral 16 (Text.hex width n) ∧ numeral 16 (Text.hex width n) = n := by
  obtain ⟨hdigits, hvalue⟩ := reads_toDigits n
  constructor
  · refine List.forall_mem_append.mpr ⟨?_, hdigits⟩
    intro d hd
    rw [List.eq_of_mem_replicate hd]
    rfl
  · rw [Text.hex, numeral_padZeros, hvalue]

theorem reads_of_hex (h : digits.asciiLower = Text.hex width n) :
    IsNumeral 16 digits ∧ numeral 16 digits = n := by
  rw [← isNumeral_asciiLower_iff, ← numeral_asciiLower, h]
  exact reads_hex width n

theorem length_hex (hpos : 0 < width) (hlt : n < 16 ^ width) :
    (Text.hex width n).length = width := by
  have hle : (Nat.toDigits 16 n).length ≤ width :=
    (Nat.length_toDigits_le_iff (by decide) hpos).mpr hlt
  rw [Text.hex, Text.padZeros, Text.zeros, List.length_append, List.length_replicate,
    List.length_map]
  omega

/-- Digits lie between `0` and `z`. -/
theorem range_of_isSome_digit? {base : Nat} {c : CodePoint} (h : (c.digit? base).isSome = true) :
    0x30 ≤ c.value ∧ c.value ≤ 0x7A := by
  unfold CodePoint.digit? CodePoint.within at h
  simp only [Bool.and_eq_true, decide_eq_true_eq] at h
  split at h
  · omega
  · split at h
    · omega
    · split at h
      · omega
      · cases h

theorem range_of_mem_hex {c : CodePoint} (h : c ∈ Text.hex width n) :
    0x30 ≤ c.value ∧ c.value ≤ 0x7A :=
  range_of_isSome_digit? ((reads_hex width n).1 c h)

theorem length_of_hex (h : digits.asciiLower = Text.hex width n) (hpos : 0 < width)
    (hlt : n < 16 ^ width) :
    digits.length = width := by
  rw [← length_hex hpos hlt, ← h, Text.asciiLower, List.length_map]

theorem ne_nil_of_hex (h : digits.asciiLower = Text.hex width n) : digits ≠ [] := by
  rintro rfl
  have hempty : Text.hex width n = [] := h.symm
  rw [Text.hex, Text.padZeros, List.append_eq_nil_iff, List.map_eq_nil_iff] at hempty
  exact Nat.toDigits_ne_nil hempty.2

end

/-! ### Spellings of a code point -/

/-- The pieces that spell a code point.  Hexadecimal digits may be of either case, and between
braces any number of zeros may stand before them. -/
inductive Spells (c : CodePoint) : Piece → Prop
  | plain (h : c ≠ .backslash) : Spells c (.plain c)
  | point {digits : Text} (width : Nat) (h : digits.asciiLower = Text.hex width c.value) :
      Spells c (.point digits)
  | unit {digits : Text} (hlt : c.value < 0x10000) (h : digits.asciiLower = Text.hex 4 c.value) :
      Spells c (.unit digits)
  | byte {digits : Text} (hlt : c.value < 0x100) (h : digits.asciiLower = Text.hex 2 c.value) :
      Spells c (.byte digits)
  | letter {l : Char} (h : (l, c.value) ∈ controls) : Spells c (.symbol l)
  | marked (h : c ∈ CodePoint.backslash :: quotes) : Spells c (.symbol c)

section

variable {c : CodePoint} {p : Piece}

theorem Spells.points_eq (h : Spells c p) : p.points = [c] := by
  have hletters : ∀ entry ∈ controls, (escaped (CodePoint.ofChar entry.1)).value = entry.2 := by
    decide
  have hmarked : ∀ d ∈ CodePoint.backslash :: quotes, escaped d = d := by decide
  cases h with
  | plain h => rfl
  | point _ h | unit _ h | byte _ h =>
      rw [Piece.points, CodePoint.ofNat?_eq_some_iff.mpr (reads_of_hex h).2.symm,
        Option.toList_some]
  | letter h => rw [Piece.points, CodePoint.ext (hletters _ h)]
  | marked h => rw [Piece.points, hmarked c h]

/-- What does not stand for itself is an escape of the grammar. -/
theorem Spells.legal (h : Spells c p) (hp : p ≠ .plain c) : p.Legal .quotationMark := by
  have hletters :
      ∀ entry ∈ controls, (Piece.symbol (CodePoint.ofChar entry.1)).Legal .quotationMark := by
        decide
  have hmarked : ∀ d ∈ CodePoint.backslash :: quotes, (Piece.symbol d).Legal .quotationMark := by
    decide
  cases h with
  | plain h => exact absurd rfl hp
  | point width h =>
      obtain ⟨hdigits, hvalue⟩ := reads_of_hex h
      exact ⟨ne_nil_of_hex h, hdigits, hvalue ▸ c.isLt⟩
  | unit hlt h | byte hlt h => exact ⟨length_of_hex h (by decide) hlt, (reads_of_hex h).1⟩
  | letter h => exact hletters _ h
  | marked h => exact hmarked c h

/-- A spelling is read as its code point, whatever comes after it. -/
theorem Spells.unescape_append (h : Spells c p) (rest : Text) :
    unescape (p.text ++ rest) = c :: unescape rest := by
  by_cases hp : p = .plain c
  · subst hp
    cases h with
    | plain hc => exact unescape_cons hc rest
  · have hrest : p.MayPrecede rest ∧ p.Apart rest := by cases h <;> exact ⟨trivial, trivial⟩
    rw [unescape_piece (h.legal hp) hrest.1 hrest.2, h.points_eq, List.singleton_append]

end

/-! ### Spellings of a text -/

/-- The pieces that write a text: a spelling for each code point, and continued lines anywhere
between them.  A line that is continued with a carriage return does not go on with a line feed,
which would belong to the line end. -/
inductive Writes : Text → List Piece → Prop
  | nil : Writes [] []
  | point {c : CodePoint} {s : Text} {p : Piece} {ps : List Piece} (hp : Spells c p)
      (hps : Writes s ps) :
      Writes (c :: s) (p :: ps)
  | lineEnd {ends s : Text} {ps : List Piece} (hends : ends ∈ lineEnds)
      (hnext : ends = [.carriageReturn] → ps.head? ≠ some (.plain .lineFeed)) (hps : Writes s ps) :
      Writes s (.lineEnd ends :: ps)

theorem head?_written_ne {ps : List Piece} (h : ps.head? ≠ some (.plain .lineFeed)) :
    (written ps).head? ≠ some .lineFeed := by
  intro hfeed
  cases ps with
  | nil => cases hfeed
  | cons p ps =>
      cases p with
      | plain c =>
          obtain rfl : c = .lineFeed := Option.some.inj hfeed
          exact h rfl
      | _ => exact absurd (Option.some.inj hfeed) (by decide)

/-- The escapes of a written text are replaced one by one, since no spelling takes anything from the
next. -/
theorem Writes.unescape_eq {s : Text} {ps : List Piece} (h : Writes s ps) :
    unescape (written ps) = s := by
  induction h with
  | nil =>
      rw [written, List.flatMap_nil, unescape]
  | point hp hps ih => rw [written_cons, hp.unescape_append, ih]
  | @lineEnd ends s ps hends hnext hps ih =>
      have hlegal : (Piece.lineEnd ends).Legal .quotationMark := hends
      have hrest : (Piece.lineEnd ends).MayPrecede (written ps) :=
        fun hreturn ↦ head?_written_ne (hnext hreturn)
      rw [written_cons, unescape_piece hlegal hrest trivial, ih]
      rfl

/-- However a text is written as a literal, reading the literal gives back the text with its
surrogate pairs joined. -/
theorem value_of_writes (quote : CodePoint) (hquote : quote ∈ quotes) (s : Text) (ps : List Piece)
    (h : Writes s ps) :
    value (quote :: (written ps ++ [quote])) = Text.joinPairs s := by
  rw [value, unquote_of_mem_quotes hquote, h.unescape_eq]

/-- The text `😀'A1`, a backslash, a line feed, `7n😀`, where the halves of the first code point are
escaped apart, and where most spellings stand before something that could belong to them. -/
def mixedSpelling : List Piece :=
  [.unit "d83D", .lineEnd [.carriageReturn], .point "0000dE00", .plain .apostrophe, .byte "41",
    .plain '1', .symbol .backslash, .lineEnd [.carriageReturn, .lineFeed], .plain .lineFeed,
    .point "37", .plain 'n', .point "1F600", .lineEnd [.lineFeed]]

theorem value_of_writes_mixedSpelling :
    Writes [⟨0xD83D, by decide⟩, ⟨0xDE00, by decide⟩, .apostrophe, 'A', '1', .backslash, .lineFeed,
      '7', 'n', '😀']
        mixedSpelling ∧
      value (.apostrophe :: (written mixedSpelling ++ [.apostrophe])) = "😀'A1\\\n7n😀" := by
  have hwrites : Writes
      [⟨0xD83D, by decide⟩, ⟨0xDE00, by decide⟩, .apostrophe, 'A', '1', .backslash, .lineFeed, '7',
        'n', '😀']
      mixedSpelling := by
    apply Writes.point (.unit (by decide) (by decide))
    apply Writes.lineEnd (by decide) (by decide)
    apply Writes.point (.point 8 (by decide))
    apply Writes.point (.plain (by decide))
    apply Writes.point (.byte (by decide) (by decide))
    apply Writes.point (.plain (by decide))
    apply Writes.point (.marked (by decide))
    apply Writes.lineEnd (by decide) (by decide)
    apply Writes.point (.plain (by decide))
    apply Writes.point (.point 0 (by decide))
    apply Writes.point (.plain (by decide))
    apply Writes.point (.point 5 (by decide))
    exact .lineEnd (by decide) (by decide) .nil
  refine ⟨hwrites, ?_⟩
  rw [value_of_writes .apostrophe (by decide) _ mixedSpelling hwrites]
  decide

end StringLiteral

end CallAudit
