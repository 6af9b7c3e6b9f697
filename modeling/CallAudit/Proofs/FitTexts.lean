import CallAudit.Proofs.PrintedSurrogates

/-!
# Texts that are fit for a terminal

A text is fit for a terminal if it has no surrogates and, where the terminal does not show all of
Unicode, none of the symbols with a replacement.  Every text is made fit code point by code point,
and a fit text stays as it is: so it does not matter whether a text, or a part of it, has been made
fit before, even if its markup was escaped in between.
-/

namespace CallAudit

namespace Terminal

variable {terminal : Terminal} {t : Text}

/-- No code point of the text is a surrogate or, on a plain terminal, a symbol with a
replacement. -/
def Fit (terminal : Terminal) (t : Text) : Prop :=
  ∀ c ∈ t, ¬ c.IsSurrogate ∧ (terminal.isUtf8 = false → ∀ s ∈ symbols, CodePoint.ofChar s.1 ≠ c)

theorem Fit.sanitize_eq (h : terminal.Fit t) : terminal.sanitize t = t := by
  have hkept : ∀ c ∈ t, terminal.shown c = [c] := by
    intro c hc
    obtain ⟨hscalar, hsymbol⟩ := h c hc
    rw [shown, if_neg hscalar]
    cases hterminal : terminal.isUtf8 with
    | true => rfl
    | false => exact plain_of_forall_ne (hsymbol hterminal)
  rw [sanitize_eq_flatMap, List.flatMap_congr hkept, List.flatMap_singleton']

/-- What is written for a code point holds neither surrogates nor symbols. -/
theorem fit_sanitize (terminal : Terminal) (t : Text) : terminal.Fit (terminal.sanitize t) := by
  intro d hd
  refine ⟨terminal.scalar_sanitize t d hd, ?_⟩
  rintro hterminal s hs rfl
  rw [sanitize_eq_flatMap] at hd
  obtain ⟨c, -, hd⟩ := List.mem_flatMap.mp hd
  by_cases hc : HasFallback c
  · -- what stands in for a code point is ASCII, and no symbol is
    have hascii := ascii_shown_of_hasFallback hterminal hc _ hd
    rw [(symbols_spec s hs).1] at hascii
    cases hascii
  · rw [terminal.shown_of_not_hasFallback hc] at hd
    exact hc (.inr ⟨s, hs, List.mem_singleton.mp hd⟩)

theorem Fit.escape {display : Display} (hdisplay : display.Faithful) (h : terminal.Fit t) :
    terminal.Fit (display.escape t) := by
  intro c hc
  rcases hdisplay.escape t c hc with hmem | rfl
  · exact h c hmem
  · have hsymbol : ∀ s ∈ symbols, CodePoint.ofChar s.1 ≠ .backslash := by decide
    exact ⟨by decide, fun _ ↦ hsymbol⟩

theorem sanitize_append (terminal : Terminal) (s t : Text) :
    terminal.sanitize (s ++ t) = terminal.sanitize s ++ terminal.sanitize t := by
  simp only [sanitize_eq_flatMap, List.flatMap_append]

/-- A part of a text may be made fit before the whole is. -/
theorem sanitize_append_sanitize (terminal : Terminal) (before t after : Text) :
    terminal.sanitize (before ++ terminal.sanitize t ++ after) =
      terminal.sanitize (before ++ t ++ after) := by
  simp only [sanitize_append, (terminal.fit_sanitize t).sanitize_eq]

/-- The symbols can be replaced in any order, for no replacement holds one. -/
theorem sanitizeBy_perm {table : List (Char × String)} (terminal : Terminal)
    (h : table.Perm symbols) (t : Text) :
    terminal.sanitizeBy table t = terminal.sanitize t := by
  have hnodup : (symbols.map fun s ↦ CodePoint.ofChar s.1).Nodup := by decide
  rw [sanitize, sanitizeBy, sanitizeBy, replaceSymbols_perm h.symm hnodup independent_symbols]

/-- The passes over a text, for the surrogates and for one symbol after the other, come to the same
as writing for each code point what is shown of it: for a surrogate its number in four digits behind
`\u`, for a symbol on a plain terminal its replacement, and else the code point itself.  So a text
can be made fit in parts, and again when it is printed in a line, with or without markup, or as a
cell.  The order of the symbols does not matter, and neither a symbol nor a surrogate is left. -/
theorem sanitize_substitutes (terminal : Terminal) (display : Display)
    (hdisplay : display.Faithful) :
    (∀ t, terminal.sanitize t = t.flatMap terminal.shown) ∧
      (∀ c : CodePoint, c.IsSurrogate → ∃ digits : Text,
        terminal.shown c = .backslash :: .ofChar 'u' :: digits ∧ digits.length = 4 ∧
          StringLiteral.fixedHex? 4 digits = some c.value) ∧
      (∀ s t, terminal.sanitize (s ++ t) = terminal.sanitize s ++ terminal.sanitize t) ∧
      (∀ t, terminal.sanitize (terminal.sanitize t) = terminal.sanitize t) ∧
      (∀ before t after,
        terminal.print display (before ++ terminal.sanitize t ++ after) =
            terminal.print display (before ++ t ++ after) ∧
          terminal.printMarkup display (before ++ terminal.sanitize t ++ after) =
            terminal.printMarkup display (before ++ t ++ after)) ∧
      (∀ t, terminal.printMarkup display (display.escape (terminal.sanitize t)) =
        Outcome.cell display (terminal.sanitize t)) ∧
      (∀ table : List (Char × String), table.Perm symbols →
        ∀ t, terminal.sanitizeBy table t = terminal.sanitize t) ∧
      ∀ t, terminal.Fit (terminal.sanitize t) := by
  refine ⟨terminal.sanitize_eq_flatMap, ?_, terminal.sanitize_append, ?_, ?_, ?_, ?_,
    terminal.fit_sanitize⟩
  · intro c hc
    rw [shown, if_pos hc]
    exact CodePoint.exists_escape_eq hc
  · intro t
    exact (terminal.fit_sanitize t).sanitize_eq
  · intro before t after
    rw [print, print, printMarkup, printMarkup, sanitize_append_sanitize]
    exact ⟨rfl, rfl⟩
  · intro t
    rw [printMarkup, ((terminal.fit_sanitize t).escape hdisplay).sanitize_eq, Outcome.cell]
  · intro table htable t
    exact terminal.sanitizeBy_perm htable t

theorem sanitize_substitutes_reversed :
    Markup.display.Faithful ∧ symbols.reverse.Perm symbols ∧
      CodePoint.IsSurrogate ⟨0xD83D, by decide⟩ ∧
      ((Terminal.mk "ascii").shown ⟨0xD83D, by decide⟩).length = 6 ∧
      (Terminal.mk "ascii").sanitizeBy symbols.reverse (⟨0xD83D, by decide⟩ :: "✓→✔ caf\u00e9") =
        "\\ud83d[OK]->[OK] caf\u00e9" := by
  obtain ⟨-, hescape, -, -, -, -, horder, -⟩ :=
    sanitize_substitutes ⟨"ascii"⟩ Markup.display Markup.faithful_display
  have hperm := List.reverse_perm symbols
  have hsurrogate : CodePoint.IsSurrogate ⟨0xD83D, by decide⟩ := by decide
  obtain ⟨digits, hshown, hlength, -⟩ := hescape _ hsurrogate
  refine ⟨Markup.faithful_display, hperm, hsurrogate, ?_, ?_⟩
  · rw [hshown, List.length_cons, List.length_cons, hlength]
  · rw [horder symbols.reverse hperm]
    decide

end Terminal

end CallAudit
