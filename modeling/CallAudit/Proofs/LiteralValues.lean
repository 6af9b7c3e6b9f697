import CallAudit.Proofs.Spelling

/-!
# Values of string literals

The text that is read from a literal, for every literal of the grammar.  It is the literal's string
value exactly if no octal number of fewer than three digits stands before an octal digit.  The
grammar lets such a number end where one more digit would take it beyond `\377`; the reader goes on,
so that it finds one code point where the grammar has two.
-/

namespace CallAudit

namespace StringLiteral

/-- The pieces that are read: an octal number of fewer than three digits takes an octal digit that
follows it. -/
def taken : List Piece → List Piece
  | .octal digits :: .plain d :: ps =>
    if digits.length < 3 ∧ (d.digit? 8).isSome then .octal (digits ++ [d]) :: taken ps
    else .octal digits :: taken (.plain d :: ps)
  | p :: ps => p :: taken ps
  | [] => []

theorem written_cons (p : Piece) (ps : List Piece) : written (p :: ps) = p.text ++ written ps :=
  List.flatMap_cons

theorem allSuit_and {suits fits : Piece → Text → Prop} {ps : List Piece} :
    AllSuit (fun p rest ↦ suits p rest ∧ fits p rest) ps ↔ AllSuit suits ps ∧ AllSuit fits ps := by
  induction ps with
  | nil => simp [AllSuit]
  | cons p ps ih =>
      rw [AllSuit, AllSuit, AllSuit, ih]
      exact and_and_and_comm

/-! ### Octal numbers -/

theorem head?_written {ps : List Piece} (h : ∀ c qs, ps ≠ .plain c :: qs) {d : CodePoint}
    (hd : (written ps).head? = some d) : d = .backslash := by
  cases ps with
  | nil => cases hd
  | cons p ps =>
      cases p with
      | plain c => exact absurd rfl (h c ps)
      | _ => exact (Option.some.inj hd).symm

/-- A piece that is read as it stands does not end before an octal digit that it could take. -/
theorem apart_of_not_plain {quote : CodePoint} {p : Piece} {ps : List Piece}
    (hlegal : p.Legal quote)
    (h : ∀ digits d qs, p = .octal digits → ps = .plain d :: qs →
      ¬ (digits.length < 3 ∧ (d.digit? 8).isSome = true)) :
    p.Apart (written ps) := by
  cases p with
  | octal digits =>
      intro d hd hoctal
      cases ps with
      | nil => cases hd
      | cons q qs =>
          cases q with
          | plain c =>
              obtain rfl : c = d := Option.some.inj hd
              have hlength : ¬ digits.length < 3 := fun hlt ↦ h digits c qs rfl rfl ⟨hlt, hoctal⟩
              have hle := hlegal.2.1
              omega
          | _ =>
              have hback : d = .backslash := head?_written (by simp) hd
              rw [hback] at hoctal
              exact absurd hoctal (by decide)
  | _ => trivial

section

variable {quote d : CodePoint} {digits rest : Text}

theorem isNumeral_concat {base : Nat} (hdigits : IsNumeral base digits)
    (hd : (d.digit? base).isSome = true) :
    IsNumeral base (digits ++ [d]) :=
  List.forall_mem_append.mpr ⟨hdigits, List.forall_mem_singleton.mpr hd⟩

/-- An octal number that may end before an octal digit has two digits. -/
theorem length_eq_two (h : Standard quote (.octal digits) (d :: rest))
    (hd : (d.digit? 8).isSome = true) (hlt : digits.length < 3) : digits.length = 2 := by
  obtain ⟨⟨hne, -, hdigits, -⟩, hrest⟩ := h
  have hpos := List.length_pos_iff.mpr hne
  have hlarge : 0x100 ≤ numeral 8 (digits ++ [d]) :=
    (hrest d rfl hd).resolve_left (Nat.ne_of_lt hlt)
  have hsmall := numeral_lt (isNumeral_concat hdigits hd)
  rw [List.length_append, List.length_singleton] at hsmall
  -- two octal digits write less than `0x100`
  have hone : digits.length ≠ 1 := by
    intro hone
    rw [hone] at hsmall
    omega
  omega

theorem length_units_octal (hdigits : IsNumeral 8 digits) (hle : digits.length ≤ 3) :
    (Text.units (Piece.octal digits).points).length = 1 := by
  have hlt : numeral 8 digits < 8 ^ 3 :=
    Nat.lt_of_lt_of_le (numeral_lt hdigits) (Nat.pow_le_pow_right (by decide) hle)
  have hpoint : CodePoint.ofNat? (numeral 8 digits) = some ⟨numeral 8 digits, by omega⟩ :=
    dif_pos (by omega)
  rw [Piece.points, hpoint, Option.toList_some, Text.units, List.flatMap_singleton,
    CodePoint.units_of_lt]
  · rfl
  · exact Nat.lt_trans hlt (by decide)

end

/-! ### Reading all pieces -/

/-- Induction over the pieces of a literal as they are read: a piece that is read as it stands, or
an octal number of two digits that takes a third. -/
@[elab_as_elim]
theorem taken_induction {quote : CodePoint}
    {motive : (ps : List Piece) → AllSuit (Standard quote) ps → Prop} (nil : motive [] trivial)
    (apart : ∀ p ps (h : AllSuit (Standard quote) (p :: ps)), p.Apart (written ps) →
      taken (p :: ps) = p :: taken ps → motive ps h.2 → motive (p :: ps) h)
    (octal : ∀ digits d ps (h : AllSuit (Standard quote) (.octal digits :: .plain d :: ps)),
      digits.length = 2 → (d.digit? 8).isSome = true →
        taken (.octal digits :: .plain d :: ps) = .octal (digits ++ [d]) :: taken ps →
          motive ps h.2.2 → motive (.octal digits :: .plain d :: ps) h)
    {ps : List Piece} (h : AllSuit (Standard quote) ps) : motive ps h := by
  fun_induction taken ps with
  | case1 digits d ps hdigit ih =>
      apply octal digits d ps h (length_eq_two h.1 hdigit.2 hdigit.1) hdigit.2 _ (ih h.2.2)
      rw [taken, if_pos hdigit]
  | case2 digits d ps hdigit ih =>
      apply apart _ _ h _ _ (ih h.2)
      · apply apart_of_not_plain h.1.1
        rintro _ _ _ ⟨⟩ ⟨⟩
        exact hdigit
      · rw [taken, if_neg hdigit]
  | case3 p ps hother ih =>
      apply apart p ps h _ _ (ih h.2)
      · apply apart_of_not_plain h.1.1
        rintro digits d qs rfl rfl
        exact (hother digits d qs rfl rfl).elim
      · rw [taken]
        exact hother
  | case4 => exact nil

/-- The reader sees the pieces with their octal numbers extended. -/
theorem unescape_eq_taken {quote : CodePoint} {ps : List Piece} (h : AllSuit (Standard quote) ps) :
    unescape (written ps) = (taken ps).flatMap Piece.points := by
  induction h using taken_induction with
  | nil =>
      rw [written, List.flatMap_nil, unescape]
      rfl
  | apart p ps h hapart htaken ih =>
      rw [htaken, written_cons, List.flatMap_cons, ← ih]
      exact unescape_piece h.1.1 h.1.2 hapart
  | octal digits d ps h hlength hd htaken ih =>
      have hdigits : IsNumeral 8 digits := h.1.1.2.2.1
      have hthree : (digits ++ [d]).length = 3 := by simp [hlength]
      have hapart : (Piece.octal (digits ++ [d])).Apart (written ps) := fun _ _ _ ↦ hthree
      have htext : written (.octal digits :: .plain d :: ps) =
          (Piece.octal (digits ++ [d])).text ++ written ps := by
        simp [written, Piece.text]
      rw [htaken, htext, List.flatMap_cons, ← ih]
      exact unescape_octal (by simp) (Nat.le_of_eq hthree) (isNumeral_concat hdigits hd) hapart

/-- A digit that an octal number takes is missing from the code units that are read. -/
theorem length_units_taken_le {quote : CodePoint} {ps : List Piece}
    (h : AllSuit (Standard quote) ps) :
    (Text.units ((taken ps).flatMap Piece.points)).length ≤
      (Text.units (ps.flatMap Piece.points)).length ∧
      ((Text.units ((taken ps).flatMap Piece.points)).length =
        (Text.units (ps.flatMap Piece.points)).length →
        AllSuit Piece.Apart ps) := by
  induction h using taken_induction with
  | nil => exact ⟨Nat.le_refl _, fun _ ↦ trivial⟩
  | apart p ps h hapart htaken ih =>
      rw [htaken]
      simp only [List.flatMap_cons, Text.units_append, List.length_append]
      refine ⟨Nat.add_le_add_left ih.1 _, fun heq ↦ ⟨hapart, ih.2 ?_⟩⟩
      omega
  | octal digits d ps h hlength hd htaken ih =>
      have hdigits : IsNumeral 8 digits := h.1.1.2.2.1
      have htwo := length_units_octal hdigits (by omega)
      have hthree := length_units_octal (isNumeral_concat hdigits hd) (by simp [hlength])
      have hplain : 0 < (Text.units (Piece.plain d).points).length := by
        simp only [Piece.points, Text.units, List.flatMap_singleton, CodePoint.units]
        split <;> simp
      have hle := ih.1
      rw [htaken]
      simp only [List.flatMap_cons, Text.units_append, List.length_append]
      omega

/-- The text that is read from a literal of the grammar: octal numbers take up to three digits,
whatever their value.  It is the string value of the literal, its code units with the surrogate
pairs joined, exactly if no octal number of fewer than three digits ends before an octal digit. -/
theorem value_eq_stringValue_iff (quote : CodePoint) (hquote : quote ∈ quotes) (ps : List Piece)
    (h : AllSuit (Standard quote) ps) :
    value (quote :: (written ps ++ [quote])) = Text.joinPairs ((taken ps).flatMap Piece.points) ∧
      (value (quote :: (written ps ++ [quote])) =
        Text.joinPairs (Text.units (ps.flatMap Piece.points)) ↔
        AllSuit Piece.Apart ps) := by
  have hvalue : value (quote :: (written ps ++ [quote])) =
      Text.joinPairs ((taken ps).flatMap Piece.points) := by
    rw [value, unquote_of_mem_quotes hquote, unescape_eq_taken h]
  refine ⟨hvalue, ?_⟩
  constructor
  · intro heq
    rw [hvalue, Text.joinPairs_units, Text.joinPairs_eq_joinPairs_iff] at heq
    exact (length_units_taken_le h).2 (congrArg List.length heq)
  · intro hapart
    exact value_of_hasValue ⟨quote, hquote, ps, rfl, allSuit_and.mpr ⟨h, hapart⟩, rfl⟩

/-- The pieces of `'a\n\x41\uD83D\uDE00\u{1F600}\08\47\377…7'`, the dots being a continued line. -/
def mixedPieces : List Piece :=
  [.plain 'a', .symbol 'n', .byte "41", .unit "D83D", .unit "DE00", .point "1F600", .octal "0",
    .plain '8', .octal "47", .octal "377", .lineEnd [.carriageReturn, .lineFeed], .plain '7']

theorem value_eq_stringValue_iff_mixedPieces :
    AllSuit (Standard .apostrophe) mixedPieces ∧ AllSuit Piece.Apart mixedPieces ∧
      value (.apostrophe :: (written mixedPieces ++ [.apostrophe])) = "a\nA😀😀\x008'ÿ7" := by
  have hstandard : AllSuit (Standard .apostrophe) mixedPieces := by decide
  have hapart : AllSuit Piece.Apart mixedPieces := by decide
  refine ⟨hstandard, hapart, ?_⟩
  rw [(value_eq_stringValue_iff .apostrophe (by decide) mixedPieces hstandard).2.mpr hapart]
  decide

/-- The literal `'\501'` has the value `(1` and is read as `U+0141`. -/
theorem value_of_long_octal :
    HasValue Standard "'\\501'" (Text.units "(1") ∧ value "'\\501'" = [⟨0x141, by decide⟩] ∧
      value "'\\501'" ≠ Text.joinPairs (Text.units "(1") := by
  refine ⟨⟨.apostrophe, by decide, [.octal "50", .plain '1'], by decide, by decide, by decide⟩, ?_⟩
  decide +kernel

end StringLiteral

end CallAudit
