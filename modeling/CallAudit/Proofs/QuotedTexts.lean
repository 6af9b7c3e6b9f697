import CallAudit.Proofs.EscapedSpellings
import CallAudit.Text.Printable

/-!
# Reading quoted texts

A quoted text can be read off again, whatever follows it.  Each code point is written by itself or
by an escape whose letter says how long it is, and the quote in use is always behind a backslash, so
that the first quote without one is the end.  Nothing in a quoted text ends a line.
-/

namespace CallAudit

namespace Text

open StringLiteral (escaped numeral)

variable {quote : CodePoint}

def readNumber (width : Nat) (t : Text) : Option (CodePoint × Text) :=
  (CodePoint.ofNat? (numeral 16 (t.take width))).map fun c ↦ (c, t.drop width)

def readPoint : Text → Option (CodePoint × Text)
  | [] => none
  | [c] => some (c, [])
  | c :: e :: rest =>
    if c ≠ .backslash then some (c, e :: rest)
    else if e = 'x' then readNumber 2 rest
    else if e = 'u' then readNumber 4 rest
    else if e = 'U' then readNumber 8 rest
    else some (escaped e, rest)

theorem readPoint_of_ne {c : CodePoint} (hc : c ≠ .backslash) (rest : Text) :
    readPoint (c :: rest) = some (c, rest) := by
  cases rest with
  | nil => rfl
  | cons e rest => exact if_pos hc

theorem readPoint_escape {e : CodePoint} (he : e ≠ 'x' ∧ e ≠ 'u' ∧ e ≠ 'U') (rest : Text) :
    readPoint (.backslash :: e :: rest) = some (escaped e, rest) := by
  rw [readPoint, if_neg (by simp), if_neg he.1, if_neg he.2.1, if_neg he.2.2]

theorem readNumber_hex {width : Nat} {c : CodePoint} (hpos : 0 < width) (hlt : c.value < 16 ^ width)
    (rest : Text) :
    readNumber width (hex width c.value ++ rest) = some (c, rest) := by
  have hlength : (hex width c.value).length = width := StringLiteral.length_hex hpos hlt
  rw [readNumber, List.take_left' hlength, List.drop_left' hlength,
    (StringLiteral.reads_hex width c.value).2, CodePoint.ofNat?_eq_some_iff.mpr rfl,
    Option.map_some]

/-- The letter of an escape says how many digits belong to it. -/
theorem readPoint_escapeNumber (c : CodePoint) (rest : Text) :
    readPoint (escapeNumber c ++ rest) = some (c, rest) := by
  unfold escapeNumber
  split
  · next hlt => exact readNumber_hex (by decide) hlt rest
  · split
    · next hlt => exact readNumber_hex (by decide) hlt rest
    · exact readNumber_hex (by decide) (Nat.lt_trans c.isLt (by decide)) rest

/-- What is written for a code point is read as it, and nothing of what follows is taken. -/
theorem readPoint_quotedPoint (hquote : quote ∈ StringLiteral.quotes) (c : CodePoint)
    (rest : Text) :
    readPoint (quotedPoint quote c ++ rest) = some (c, rest) := by
  have hmarked : ∀ d ∈ CodePoint.backslash :: StringLiteral.quotes,
      escaped d = d ∧ d ≠ 'x' ∧ d ≠ 'u' ∧ d ≠ 'U' := by
    decide
  unfold quotedPoint
  split
  · next hc =>
    have hmem : c ∈ CodePoint.backslash :: StringLiteral.quotes := by
      rcases hc with rfl | rfl
      · exact List.mem_cons_of_mem _ hquote
      · exact List.mem_cons_self
    obtain ⟨hself, hletters⟩ := hmarked c hmem
    exact (readPoint_escape hletters rest).trans (by rw [hself])
  · next hc =>
    split
    · next hc => exact hc ▸ readPoint_escape (by decide) rest
    · split
      · next hc => exact hc ▸ readPoint_escape (by decide) rest
      · split
        · next hc => exact hc ▸ readPoint_escape (by decide) rest
        · split
          · exact readPoint_of_ne (fun h ↦ hc (.inr h)) rest
          · exact readPoint_escapeNumber c rest

theorem ne_backslash_of_mem_quotes (hquote : quote ∈ StringLiteral.quotes) :
    quote ≠ .backslash := by
  have hall : ∀ q ∈ StringLiteral.quotes, q ≠ .backslash := by decide
  exact hall quote hquote

/-- No code point is written in a way that begins with the quote. -/
theorem quotedPoint_append_ne (hquote : quote ∈ StringLiteral.quotes) (c : CodePoint)
    (rest y : Text) :
    quotedPoint quote c ++ rest ≠ quote :: y := by
  have hescape : ∀ t : Text, CodePoint.backslash :: t ≠ quote :: y := by
    intro t h
    exact ne_backslash_of_mem_quotes hquote (List.cons.inj h).1.symm
  unfold quotedPoint escapeNumber
  split
  · exact hescape _
  · next hc =>
    split
    · exact hescape _
    · split
      · exact hescape _
      · split
        · exact hescape _
        · split
          · exact fun h ↦ hc (.inl (List.cons.inj h).1)
          · split
            · exact hescape _
            · split
              · exact hescape _
              · exact hescape _

/-- Up to the first quote that is not escaped, the same is spelled if the same is written. -/
theorem flatMap_quotedPoint_inj (hquote : quote ∈ StringLiteral.quotes) {s t x y : Text}
    (h : s.flatMap (quotedPoint quote) ++ quote :: x =
      t.flatMap (quotedPoint quote) ++ quote :: y) :
    s = t ∧ x = y := by
  induction s generalizing t with
  | nil =>
      cases t with
      | nil => exact ⟨rfl, (List.cons.inj h).2⟩
      | cons d t =>
          rw [List.flatMap_cons, List.append_assoc] at h
          exact absurd h.symm (quotedPoint_append_ne hquote d _ _)
  | cons c s ih =>
      rw [List.flatMap_cons, List.append_assoc] at h
      cases t with
      | nil => exact absurd h (quotedPoint_append_ne hquote c _ _)
      | cons d t =>
          rw [List.flatMap_cons, List.append_assoc] at h
          have hread := congrArg readPoint h
          rw [readPoint_quotedPoint hquote, readPoint_quotedPoint hquote] at hread
          obtain ⟨rfl, hrest⟩ := Prod.mk.inj (Option.some.inj hread)
          obtain ⟨rfl, hxy⟩ := ih hrest
          exact ⟨rfl, hxy⟩

theorem quoteFor_mem_quotes (t : Text) : t.quoteFor ∈ StringLiteral.quotes := by
  unfold quoteFor
  split
  · decide
  · decide

/-- A quoted text says what was quoted and where it ends. -/
theorem quoted_append_inj {s t x y : Text} (h : s.quoted ++ x = t.quoted ++ y) : s = t ∧ x = y := by
  simp only [quoted, List.cons_append, List.append_assoc, List.nil_append] at h
  obtain ⟨hquote, h⟩ := List.cons.inj h
  rw [hquote] at h
  exact flatMap_quotedPoint_inj t.quoteFor_mem_quotes h

/-! ### Line ends -/

/-- No code point of the text is a blank or a control of ASCII. -/
def Dense (t : Text) : Prop := ∀ c ∈ t, 0x20 < c.value

instance (t : Text) : Decidable t.Dense := inferInstanceAs (Decidable (∀ c ∈ t, 0x20 < c.value))

theorem Dense.append {s t : Text} (hs : s.Dense) (ht : t.Dense) : Dense (s ++ t) :=
  List.forall_mem_append.mpr ⟨hs, ht⟩

theorem Dense.lineFeed_notMem {t : Text} (h : t.Dense) : .lineFeed ∉ t :=
  fun hmem ↦ absurd (h _ hmem) (by decide)

theorem dense_zeros (count : Nat) : Dense (zeros count) := by
  intro c hc
  rw [List.eq_of_mem_replicate hc]
  decide

theorem dense_hex (width n : Nat) : Dense (hex width n) :=
  fun _ hc ↦ Nat.lt_of_lt_of_le (by decide) (StringLiteral.range_of_mem_hex hc).1

theorem lineFeed_notMem_escapeNumber (c : CodePoint) : .lineFeed ∉ escapeNumber c := by
  have hescape : ∀ (letter : CodePoint) (width : Nat), 0x20 < letter.value →
      Dense (.backslash :: letter :: hex width c.value) := by
    intro letter width hletter
    exact List.forall_mem_cons.mpr ⟨by decide,
      List.forall_mem_cons.mpr ⟨hletter, dense_hex width c.value⟩⟩
  unfold escapeNumber
  split
  · exact (hescape 'x' 2 (by decide)).lineFeed_notMem
  · split
    · exact (hescape 'u' 4 (by decide)).lineFeed_notMem
    · exact (hescape 'U' 8 (by decide)).lineFeed_notMem

theorem lineFeed_ne_of_mem_quotes (hquote : quote ∈ StringLiteral.quotes) : .lineFeed ≠ quote := by
  have hall : ∀ q ∈ StringLiteral.quotes, .lineFeed ≠ q := by decide
  exact hall quote hquote

theorem lineFeed_notMem_quotedPoint (hquote : quote ∈ StringLiteral.quotes) (c : CodePoint) :
    .lineFeed ∉ quotedPoint quote c := by
  unfold quotedPoint
  split
  · next hc =>
    rcases hc with rfl | rfl
    · simpa using ⟨by decide, lineFeed_ne_of_mem_quotes hquote⟩
    · decide
  · split
    · decide
    · next hc =>
      split
      · decide
      · split
        · decide
        · split
          · simpa using Ne.symm hc
          · exact lineFeed_notMem_escapeNumber c

/-- Line ends are not printable and therefore escaped. -/
theorem lineFeed_notMem_quoted (t : Text) : .lineFeed ∉ t.quoted := by
  have hquote := t.quoteFor_mem_quotes
  have hends := lineFeed_ne_of_mem_quotes hquote
  intro hmem
  simp only [quoted, List.cons_append, List.mem_cons, List.mem_append, List.mem_flatMap,
    List.not_mem_nil, hends, false_or, or_false] at hmem
  obtain ⟨c, -, hc⟩ := hmem
  exact lineFeed_notMem_quotedPoint hquote c hc

end Text

end CallAudit
