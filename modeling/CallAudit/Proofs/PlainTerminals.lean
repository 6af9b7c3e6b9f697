import CallAudit.Proofs.EscapedSpellings
import CallAudit.Terminal
import Mathlib.Data.List.Basic

/-!
# Texts on plain terminals

Surrogates are escaped and symbols replaced in one pass over the text after the other.  Neither the
escapes nor the replacements hold symbols, so that nothing is replaced twice and the passes come to
one substitution, code point by code point.  On a terminal of another encoding than UTF-8 the code
points beyond ASCII that remain are those that are neither surrogates nor among the symbols with a
replacement.
-/

namespace CallAudit

namespace Text

def Ascii (t : Text) : Prop := ∀ c ∈ t, c.isAscii = true

instance (t : Text) : Decidable t.Ascii := inferInstanceAs (Decidable (∀ c ∈ t, c.isAscii = true))

theorem ascii_hex (width n : Nat) : Ascii (hex width n) := by
  intro c hc
  have hrange := (StringLiteral.range_of_mem_hex hc).2
  exact decide_eq_true (Nat.lt_of_le_of_lt hrange (by decide))

end Text

namespace CodePoint

def escape (c : CodePoint) : Text := Text.concat ["\\u", Text.hex 4 c.value]

theorem ascii_escape (c : CodePoint) : Text.Ascii c.escape := by
  have hmark : Text.Ascii "\\u" := by decide
  exact List.forall_mem_append.mpr ⟨hmark, List.forall_mem_append.mpr
    ⟨Text.ascii_hex 4 c.value, List.forall_mem_nil _⟩⟩

/-- The escape of a surrogate is its number, in four hexadecimal digits, behind a backslash and a
`u`. -/
theorem exists_escape_eq {c : CodePoint} (h : c.IsSurrogate) :
    ∃ digits : Text, c.escape = .backslash :: .ofChar 'u' :: digits ∧ digits.length = 4 ∧
      StringLiteral.fixedHex? 4 digits = some c.value := by
  obtain ⟨hdigits, hvalue⟩ := StringLiteral.reads_hex 4 c.value
  have hlength : (Text.hex 4 c.value).length = 4 :=
    StringLiteral.length_hex (by decide) (by have := h.2; omega)
  have hread := StringLiteral.fixedHex?_append hdigits []
  rw [hlength, List.append_nil, hvalue] at hread
  refine ⟨Text.hex 4 c.value, ?_, hlength, hread⟩
  calc c.escape
      = .backslash :: .ofChar 'u' :: (Text.hex 4 c.value ++ []) := rfl
    _ = .backslash :: .ofChar 'u' :: Text.hex 4 c.value := by rw [List.append_nil]

end CodePoint

namespace Terminal

/-! ### Tables of symbols -/

section

variable {table table' : List (Char × String)}

/-- What stands for a code point if all symbols of a table are replaced at once. -/
def plain (table : List (Char × String)) (c : CodePoint) : Text :=
  match table.find? fun s ↦ CodePoint.ofChar s.1 == c with
  | some s => s.2
  | none => [c]

theorem plain_of_forall_ne {c : CodePoint} (h : ∀ s ∈ table, CodePoint.ofChar s.1 ≠ c) :
    plain table c = [c] := by
  have hnone : table.find? (fun s ↦ CodePoint.ofChar s.1 == c) = none := by
    simpa [List.find?_eq_none] using h
  rw [plain, hnone]

theorem plain_cons (s : Char × String) (table : List (Char × String)) (c : CodePoint) :
    plain (s :: table) c =
      if c = CodePoint.ofChar s.1 then Text.ofString s.2 else plain table c := by
  unfold plain
  split_ifs with h
  · rw [List.find?_cons_of_pos (by simp [h])]
  · rw [List.find?_cons_of_neg (by simpa using Ne.symm h)]

def Independent (table : List (Char × String)) : Prop :=
  ∀ s ∈ table, ∀ r ∈ table, CodePoint.ofChar s.1 ∉ Text.ofString r.2

/-- Replacing independent symbols one after the other is replacing all of them at once. -/
theorem replaceSymbols_eq_flatMap (h : Independent table) (t : Text) :
    replaceSymbols table t = t.flatMap (plain table) := by
  induction table generalizing t with
  | nil => exact (List.flatMap_singleton' t).symm
  | cons s table ih =>
      have hlater : Independent table :=
        fun r hr q hq ↦ h r (List.mem_cons_of_mem s hr) q (List.mem_cons_of_mem s hq)
      -- the later passes leave what the first one puts in
      have hkept : (Text.ofString s.2).flatMap (plain table) = Text.ofString s.2 := by
        have hfixed : ∀ c ∈ Text.ofString s.2, plain table c = [c] := by
          intro c hc
          apply plain_of_forall_ne
          rintro r hr rfl
          exact h r (List.mem_cons_of_mem s hr) s List.mem_cons_self hc
        rw [List.flatMap_congr hfixed, List.flatMap_singleton']
      calc replaceSymbols (s :: table) t
          = (Text.replaceAll s.1 s.2 t).flatMap (plain table) := ih hlater _
        _ = t.flatMap (plain (s :: table)) := by
          rw [Text.replaceAll, List.flatMap_assoc]
          apply List.flatMap_congr
          intro c _
          rw [plain_cons]
          split
          · exact hkept
          · exact List.flatMap_singleton (plain table) c

/-- No symbol is in the table twice, so that the table can be asked in any order. -/
theorem plain_of_mem (hnodup : (table.map fun s ↦ CodePoint.ofChar s.1).Nodup) {s : Char × String}
    (hs : s ∈ table) :
    plain table (.ofChar s.1) = Text.ofString s.2 := by
  induction table with
  | nil => cases hs
  | cons r table ih =>
      rw [List.map_cons, List.nodup_cons] at hnodup
      rw [plain_cons]
      rcases List.mem_cons.mp hs with rfl | hs
      · exact if_pos rfl
      · rw [if_neg, ih hnodup.2 hs]
        intro heq
        exact hnodup.1 (heq ▸ List.mem_map_of_mem hs)

/-- The order of a table does not matter. -/
theorem replaceSymbols_perm (hperm : table.Perm table')
    (hnodup : (table.map fun s ↦ CodePoint.ofChar s.1).Nodup) (h : Independent table) (t : Text) :
    replaceSymbols table t = replaceSymbols table' t := by
  have h' : Independent table' :=
    fun s hs r hr ↦ h s (hperm.mem_iff.mpr hs) r (hperm.mem_iff.mpr hr)
  rw [replaceSymbols_eq_flatMap h, replaceSymbols_eq_flatMap h']
  apply List.flatMap_congr
  intro c _
  by_cases hc : ∃ s ∈ table, CodePoint.ofChar s.1 = c
  · obtain ⟨s, hs, rfl⟩ := hc
    rw [plain_of_mem hnodup hs,
      plain_of_mem ((hperm.map _).nodup_iff.mp hnodup) (hperm.mem_iff.mp hs)]
  · push Not at hc
    rw [plain_of_forall_ne hc, plain_of_forall_ne fun s hs ↦ hc s (hperm.mem_iff.mpr hs)]

end

/-! ### The symbols of terminals -/

theorem symbols_spec :
    ∀ s ∈ symbols, (CodePoint.ofChar s.1).isAscii = false ∧ Text.Ascii s.2 := by decide

theorem independent_symbols : Independent symbols := by
  intro s hs r hr hmem
  have hascii := (symbols_spec r hr).2 _ hmem
  rw [(symbols_spec s hs).1] at hascii
  cases hascii

theorem ascii_plain_of_mem {c : CodePoint} {s : Char × String} (hs : s ∈ symbols)
    (hc : CodePoint.ofChar s.1 = c) :
    Text.Ascii (plain symbols c) := by
  unfold plain
  split
  · next found hfind => exact (symbols_spec found (List.mem_of_find?_eq_some hfind)).2
  · next hfind => exact absurd (List.find?_eq_none.mp hfind s hs) (by simpa using hc)

theorem plain_of_isAscii {c : CodePoint} (h : c.isAscii = true) : plain symbols c = [c] := by
  apply plain_of_forall_ne
  rintro s hs rfl
  exact absurd h (by simp [(symbols_spec s hs).1])

def shown (terminal : Terminal) (c : CodePoint) : Text :=
  if c.IsSurrogate then c.escape else if terminal.isUtf8 then [c] else plain symbols c

/-- The passes over the text come to one substitution, code point by code point. -/
theorem sanitize_eq_flatMap (terminal : Terminal) (t : Text) :
    terminal.sanitize t = t.flatMap terminal.shown := by
  have hescape : ∀ c : CodePoint, c.escape.flatMap (plain symbols) = c.escape := by
    intro c
    rw [List.flatMap_congr fun d hd ↦ plain_of_isAscii (c.ascii_escape d hd)]
    exact List.flatMap_singleton' _
  rw [sanitize, sanitizeBy, Text.escapeSurrogates]
  split
  · next hutf8 =>
    apply List.flatMap_congr
    intro c _
    simp only [shown, hutf8, if_true]
    rfl
  · next hplain =>
    rw [replaceSymbols_eq_flatMap independent_symbols, List.flatMap_assoc]
    apply List.flatMap_congr
    intro c _
    rw [shown, if_neg hplain]
    split
    · exact hescape c
    · exact List.flatMap_singleton (plain symbols) c

/-- The code point is written in ASCII on every plain terminal: it is a surrogate, or a symbol with
a replacement. -/
def HasFallback (c : CodePoint) : Prop := c.IsSurrogate ∨ ∃ s ∈ symbols, CodePoint.ofChar s.1 = c

instance (c : CodePoint) : Decidable (HasFallback c) :=
  inferInstanceAs (Decidable (c.IsSurrogate ∨ ∃ s ∈ symbols, CodePoint.ofChar s.1 = c))

theorem ascii_shown_of_hasFallback {terminal : Terminal} (h : terminal.isUtf8 = false)
    {c : CodePoint} (hc : HasFallback c) : Text.Ascii (terminal.shown c) := by
  unfold shown
  split
  · exact c.ascii_escape
  · next hsurrogate =>
    obtain ⟨s, hs, hsc⟩ := hc.resolve_left hsurrogate
    simpa [h] using ascii_plain_of_mem hs hsc

/-- All other code points are shown as they are. -/
theorem shown_of_not_hasFallback (terminal : Terminal) {c : CodePoint} (hc : ¬ HasFallback c) :
    terminal.shown c = [c] := by
  obtain ⟨hsurrogate, hsymbol⟩ := not_or.mp hc
  rw [shown, if_neg hsurrogate, plain_of_forall_ne fun s hs hsc ↦ hsymbol ⟨s, hs, hsc⟩, ite_self]

/-- A plain terminal is given exactly those code points beyond ASCII, in their order, for which
there is no fallback, so that a text comes out in ASCII only if it has none of them. -/
theorem sanitize_beyond_ascii (terminal : Terminal) (h : terminal.isUtf8 = false) (t : Text) :
    (terminal.sanitize t).filter (fun c ↦ !c.isAscii) =
      t.filter (fun c ↦ !c.isAscii && !decide (HasFallback c)) ∧
      (Text.Ascii (terminal.sanitize t) ↔ ∀ c ∈ t, c.isAscii = true ∨ HasFallback c) := by
  have hfilter : ∀ c, (terminal.shown c).filter (fun d ↦ !d.isAscii) =
      [c].filter fun d ↦ !d.isAscii && !decide (HasFallback d) := by
    intro c
    by_cases hc : HasFallback c
    · have hascii := ascii_shown_of_hasFallback h hc
      rw [List.filter_eq_nil_iff.mpr fun d hd ↦ by simp [hascii d hd]]
      simp [hc]
    · rw [terminal.shown_of_not_hasFallback hc]
      apply List.filter_congr
      intro d hd
      rw [List.mem_singleton.mp hd, decide_eq_false hc, Bool.not_false, Bool.and_true]
  have hbeyond : (terminal.sanitize t).filter (fun c ↦ !c.isAscii) =
      t.filter fun c ↦ !c.isAscii && !decide (HasFallback c) := by
    rw [sanitize_eq_flatMap, List.filter_flatMap, List.flatMap_congr fun c _ ↦ hfilter c,
      ← List.filter_flatMap, List.flatMap_singleton']
  refine ⟨hbeyond, ?_⟩
  calc Text.Ascii (terminal.sanitize t)
      ↔ (terminal.sanitize t).filter (fun c ↦ !c.isAscii) = [] := by
        simp [Text.Ascii, List.filter_eq_nil_iff]
    _ ↔ t.filter (fun c ↦ !c.isAscii && !decide (HasFallback c)) = [] := by rw [hbeyond]
    _ ↔ ∀ c ∈ t, c.isAscii = true ∨ HasFallback c := by
      simp [List.filter_eq_nil_iff, or_iff_not_imp_left]

theorem sanitize_beyond_ascii_letter :
    (Terminal.mk "ascii").isUtf8 = false ∧
      ((Terminal.mk "ascii").sanitize (⟨0xD83D, by decide⟩ :: "→ caf\u00e9")).filter
        (fun c ↦ !c.isAscii) =
        [.ofChar '\u00e9'] := by
  have hplain : (Terminal.mk "ascii").isUtf8 = false := by decide
  refine ⟨hplain, ?_⟩
  rw [(sanitize_beyond_ascii ⟨"ascii"⟩ hplain _).1]
  decide

/-- A letter beyond ASCII is handed to a terminal that cannot show it. -/
theorem not_ascii_sanitize_letter :
    (Terminal.mk "ascii").isUtf8 = false ∧ ¬ Text.Ascii
      ((Terminal.mk "ascii").sanitize "\u00e9") := by
  decide

end Terminal

end CallAudit
