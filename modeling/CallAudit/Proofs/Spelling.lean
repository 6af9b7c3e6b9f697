import CallAudit.Proofs.Surrogates
import CallAudit.StringLiteral
import Mathlib.Algebra.Group.Nat.Defs

/-!
# Spellings of string literals

The grammar of ECMAScript string literals.  Between two quotation marks or apostrophes stand pieces,
and each piece spells some code points: itself, a number after a backslash, a letter for a control
character, or nothing where a line is continued.  The string value of a literal is the sequence of
code units that its pieces spell.

The reader of literals goes through the pieces one by one.  It takes a third octal digit also where
the number is then beyond `\377`, where the grammar ends the escape before that digit; such escapes
are set apart here.
-/

namespace CallAudit

namespace StringLiteral

inductive Piece where
  | plain (c : CodePoint)
  | symbol (c : CodePoint)
  | byte (digits : Text)
  | unit (digits : Text)
  | point (digits : Text)
  | octal (digits : Text)
  | lineEnd (ends : Text)
  deriving DecidableEq

def numeral (base : Nat) (digits : Text) : Nat :=
  digits.foldl (fun n d ↦ n * base + (d.digit? base).getD 0) 0

def IsNumeral (base : Nat) (digits : Text) : Prop := ∀ d ∈ digits, (d.digit? base).isSome = true

instance (base : Nat) (digits : Text) : Decidable (IsNumeral base digits) :=
  inferInstanceAs (Decidable (∀ d ∈ digits, _))

def controls : List (Char × Nat) :=
  [('b', 0x08), ('t', 0x09), ('n', 0x0A), ('v', 0x0B), ('f', 0x0C), ('r', 0x0D)]

/-- What a code point that is neither a digit nor begins a numbered escape stands for after a
backslash. -/
def escaped (c : CodePoint) : CodePoint :=
  ((controls.find? fun entry ↦ CodePoint.ofChar entry.1 == c).bind fun entry ↦
    CodePoint.ofNat? entry.2).getD c

def lineEnds : List Text :=
  [[.lineFeed], [.carriageReturn], [.carriageReturn, .lineFeed], [⟨0x2028, by decide⟩],
    [⟨0x2029, by decide⟩]]

namespace Piece

def text : Piece → Text
  | plain c => [c]
  | symbol c => [.backslash, c]
  | byte digits => .backslash :: 'x' :: digits
  | unit digits => .backslash :: 'u' :: digits
  | point digits => .backslash :: 'u' :: '\x7b' :: (digits ++ [CodePoint.ofChar '\x7d'])
  | octal digits => .backslash :: digits
  | lineEnd ends => .backslash :: ends

def points : Piece → Text
  | plain c => [c]
  | symbol c => [escaped c]
  | byte digits | unit digits | point digits => (CodePoint.ofNat? (numeral 16 digits)).toList
  | octal digits => (CodePoint.ofNat? (numeral 8 digits)).toList
  | lineEnd _ => []

/-- The pieces that a literal between two given quotes may have. -/
def Legal (quote : CodePoint) : Piece → Prop
  | plain c => c ≠ quote ∧ c ≠ .backslash ∧ c ≠ .lineFeed ∧ c ≠ .carriageReturn
  | symbol c => c ≠ 'u' ∧ c ≠ 'x' ∧ c.digit? 8 = none ∧ [c] ∉ lineEnds
  | byte digits => digits.length = 2 ∧ IsNumeral 16 digits
  | unit digits => digits.length = 4 ∧ IsNumeral 16 digits
  | point digits => digits ≠ [] ∧ IsNumeral 16 digits ∧ numeral 16 digits < 0x110000
  | octal digits => digits ≠ [] ∧ digits.length ≤ 3 ∧ IsNumeral 8 digits ∧ numeral 8 digits < 0x100
  | lineEnd ends => ends ∈ lineEnds

instance (quote : CodePoint) : (p : Piece) → Decidable (p.Legal quote)
  | plain _ | symbol _ | point _ | octal _ => inferInstanceAs (Decidable (_ ∧ _))
  | byte _ | unit _ => inferInstanceAs (Decidable (_ ∧ _))
  | lineEnd ends => inferInstanceAs (Decidable (ends ∈ lineEnds))

/-- The texts before which a piece may end: a line end and an octal number take what they can. -/
def MayPrecede (p : Piece) (rest : Text) : Prop :=
  match p with
  | octal digits => ∀ d ∈ rest.head?, (d.digit? 8).isSome = true →
      digits.length = 3 ∨ 0x100 ≤ numeral 8 (digits ++ [d])
  | lineEnd ends => ends = [.carriageReturn] → rest.head? ≠ some .lineFeed
  | _ => True

instance (rest : Text) : (p : Piece) → Decidable (p.MayPrecede rest)
  | octal _ => inferInstanceAs (Decidable (∀ d ∈ rest.head?, _))
  | lineEnd ends =>
      inferInstanceAs (Decidable (ends = [.carriageReturn] → rest.head? ≠ some .lineFeed))
  | plain _ | symbol _ | byte _ | unit _ | point _ => isTrue trivial

/-- An octal number of fewer than three digits does not end before an octal digit. -/
def Apart (p : Piece) (rest : Text) : Prop :=
  match p with
  | octal digits => ∀ d ∈ rest.head?, (d.digit? 8).isSome = true → digits.length = 3
  | _ => True

instance (rest : Text) : (p : Piece) → Decidable (p.Apart rest)
  | octal _ => inferInstanceAs (Decidable (∀ d ∈ rest.head?, _))
  | plain _ | symbol _ | byte _ | unit _ | point _ | lineEnd _ => isTrue trivial

end Piece

def written (ps : List Piece) : Text := ps.flatMap Piece.text

/-- Each of some pieces suits the text of those that follow it. -/
def AllSuit (suits : Piece → Text → Prop) : List Piece → Prop
  | [] => True
  | p :: ps => suits p (written ps) ∧ AllSuit suits ps

instance (suits : Piece → Text → Prop) [∀ p rest, Decidable (suits p rest)] : (ps : List Piece) →
    Decidable (AllSuit suits ps)
  | [] => isTrue trivial
  | p :: ps =>
    have : Decidable (AllSuit suits ps) := instDecidableAllSuit suits ps
    inferInstanceAs (Decidable (suits p (written ps) ∧ AllSuit suits ps))

/-! ### Reading numbers -/

theorem isNumeral_cons {base : Nat} {d : CodePoint} {digits : Text} :
    IsNumeral base (d :: digits) ↔ (∃ n, d.digit? base = some n) ∧ IsNumeral base digits := by
  rw [IsNumeral, List.forall_mem_cons, Option.isSome_iff_exists]
  rfl

theorem mapM_digit? {base : Nat} {digits : Text} (h : IsNumeral base digits) :
    digits.mapM (CodePoint.digit? base) = some (digits.map fun d ↦ (d.digit? base).getD 0) := by
  induction digits with
  | nil => rfl
  | cons d digits ih =>
      obtain ⟨⟨n, hn⟩, hrest⟩ := isNumeral_cons.mp h
      rw [List.mapM_cons, ih hrest, List.map_cons, hn]
      rfl

theorem fixedHex?_append {digits : Text} (h : IsNumeral 16 digits) (rest : Text) :
    fixedHex? digits.length (digits ++ rest) = some (numeral 16 digits) := by
  have hle : ¬(digits ++ rest).length < digits.length := by
    rw [List.length_append]
    omega
  rw [fixedHex?, if_neg hle, List.take_left, mapM_digit? h, Option.map_some, List.foldl_map]
  rfl

theorem takeWhile_digit? {digits : Text} (h : IsNumeral 16 digits) (rest : Text) :
    ((digits ++ CodePoint.ofChar '\x7d' :: rest).takeWhile fun d ↦ (d.digit? 16).isSome) =
      digits := by
  rw [List.takeWhile_append_of_pos h, List.takeWhile_cons_of_neg (by decide), List.append_nil]

theorem bracedHex?_point {digits : Text} (hne : digits ≠ []) (h : IsNumeral 16 digits)
    (rest : Text) :
    bracedHex? ('\x7b' :: (digits ++ CodePoint.ofChar '\x7d' :: rest)) =
      some (numeral 16 digits, digits.length + 2) := by
  have hclose : (digits ++ CodePoint.ofChar '\x7d' :: rest)[digits.length]? = some '\x7d' := by
    rw [List.getElem?_append_right (Nat.le_refl _), Nat.sub_self]
    rfl
  rw [bracedHex?, takeWhile_digit? h, if_pos ⟨rfl, hne, hclose⟩, fixedHex?_append h]
  rfl

theorem bracedHex?_of_digit {d : CodePoint} (hd : (d.digit? 16).isSome = true) (rest : Text) :
    bracedHex? (d :: rest) = none := by
  have hne : d ≠ '\x7b' := by
    rintro rfl
    revert hd
    decide
  rw [bracedHex?, if_neg fun h ↦ hne h.1]

theorem digit?_lt {base n : Nat} {d : CodePoint} (h : d.digit? base = some n) : n < base := by
  have hfilter := (Option.filter_eq_some_iff.mp h).2
  exact of_decide_eq_true hfilter

/-- A numeral of so many digits is bounded by the power of its base. -/
theorem numeral_lt {base : Nat} {digits : Text} (h : IsNumeral base digits) :
    numeral base digits < base ^ digits.length := by
  -- the induction needs the digits that were read before, as the number `n`
  suffices hfrom : ∀ n, digits.foldl (fun n d ↦ n * base + (d.digit? base).getD 0) n <
      (n + 1) * base ^ digits.length by
    simpa [numeral] using hfrom 0
  induction digits with
  | nil =>
      intro n
      simp
  | cons d digits ih =>
      intro n
      obtain ⟨⟨k, hk⟩, hrest⟩ := isNumeral_cons.mp h
      have hlt : n * base + k + 1 ≤ (n + 1) * base := by
        have hdigit := digit?_lt hk
        rw [Nat.succ_mul]
        omega
      calc digits.foldl (fun n d ↦ n * base + (d.digit? base).getD 0)
            (n * base + (d.digit? base).getD 0)
          < (n * base + (d.digit? base).getD 0 + 1) * base ^ digits.length := ih hrest _
        _ = (n * base + k + 1) * base ^ digits.length := by rw [hk, Option.getD_some]
        _ ≤ ((n + 1) * base) * base ^ digits.length := Nat.mul_le_mul_right _ hlt
        _ = (n + 1) * base ^ (d :: digits).length := by
          rw [List.length_cons, Nat.pow_succ', Nat.mul_assoc]

theorem ofNat?_numeral {base : Nat} {digits : Text} (h : IsNumeral base digits)
    (hlt : base ^ digits.length ≤ 0x110000) :
    ∃ c, CodePoint.ofNat? (numeral base digits) = some c :=
  ⟨_, dif_pos (Nat.lt_of_lt_of_le (numeral_lt h) hlt)⟩

/-! ### Reading pieces -/

/-- The reader's letters are those of the grammar. -/
theorem letter_eq_escaped (c : CodePoint) : letter c = escaped c := by
  -- the six letters are compared one by one; on all other code points both functions are the
  -- identity
  by_cases hc : c ∈ controls.map fun entry ↦ CodePoint.ofChar entry.1
  · have hall : ∀ d ∈ controls.map fun entry ↦ CodePoint.ofChar entry.1, letter d = escaped d := by
      decide
    exact hall c hc
  · have hnone : (controls.find? fun entry ↦ CodePoint.ofChar entry.1 == c) = none := by
      refine List.find?_eq_none.mpr fun entry hentry heq ↦ hc ?_
      rw [← eq_of_beq heq]
      exact List.mem_map_of_mem hentry
    simp only [controls, List.map_cons, List.map_nil, List.mem_cons, List.not_mem_nil, or_false,
      not_or] at hc
    obtain ⟨hb, ht, hn, hv, hf, hr⟩ := hc
    rw [escaped, hnone, letter, if_neg hn, if_neg ht, if_neg hr, if_neg hb, if_neg hf, if_neg hv]
    rfl

theorem mem_lineEnds_of_isLineEnd {c : CodePoint} (h : isLineEnd c = true) : [c] ∈ lineEnds := by
  simp only [isLineEnd, Bool.or_eq_true, beq_iff_eq] at h
  rcases h with ((rfl | rfl) | h) | h
  · decide
  · decide
  · rw [show c = ⟨0x2028, by decide⟩ from CodePoint.ext h]
    decide
  · rw [show c = ⟨0x2029, by decide⟩ from CodePoint.ext h]
    decide

theorem unescape_cons {c : CodePoint} (hc : c ≠ .backslash) (rest : Text) :
    unescape (c :: rest) = c :: unescape rest := by
  cases rest with
  | nil => rw [unescape, unescape]
  | cons d rest => rw [unescape, if_neg hc]

/-- An escape is read together with all that belongs to it. -/
theorem unescape_escape {c : CodePoint} {tail rest out : Text}
    (h : escape c (tail ++ rest) = (out, tail.length)) :
    unescape (.backslash :: c :: (tail ++ rest)) = out ++ unescape rest := by
  rw [unescape, if_pos rfl, h, List.drop_left]

section

variable {quote : CodePoint} {digits : Text}

theorem escape_byte (h : (Piece.byte digits).Legal quote) (rest : Text) :
    escape 'x' (digits ++ rest) = ((Piece.byte digits).points, digits.length) := by
  obtain ⟨hlength, hdigits⟩ := h
  obtain ⟨c, hc⟩ := ofNat?_numeral hdigits (by rw [hlength]; decide)
  have hread : fixedHex? 2 (digits ++ rest) = some (numeral 16 digits) :=
    hlength ▸ fixedHex?_append hdigits rest
  rw [escape, if_neg (by decide), if_pos rfl, byteEscape, hread, Option.bind_some, hc, Piece.points,
    hc, hlength]
  rfl

theorem escape_unit (h : (Piece.unit digits).Legal quote) (rest : Text) :
    escape 'u' (digits ++ rest) = ((Piece.unit digits).points, digits.length) := by
  obtain ⟨hlength, hdigits⟩ := h
  obtain ⟨c, hc⟩ := ofNat?_numeral hdigits (by rw [hlength]; decide)
  have hread : fixedHex? 4 (digits ++ rest) = some (numeral 16 digits) :=
    hlength ▸ fixedHex?_append hdigits rest
  have hbraces : bracedHex? (digits ++ rest) = none := by
    cases digits with
    | nil => simp at hlength
    | cons d digits => exact bracedHex?_of_digit (hdigits d List.mem_cons_self) (digits ++ rest)
  rw [escape, if_pos rfl, unicodeEscape, hbraces]
  dsimp only
  rw [hread, Option.bind_some, hc, Piece.points, hc, hlength]
  rfl

theorem escape_point (h : (Piece.point digits).Legal quote) (rest : Text) :
    escape 'u' ((CodePoint.ofChar '\x7b' :: (digits ++ [CodePoint.ofChar '\x7d'])) ++ rest) =
      ((Piece.point digits).points, digits.length + 2) := by
  obtain ⟨hne, hdigits, hlt⟩ := h
  have hc : CodePoint.ofNat? (numeral 16 digits) = some ⟨numeral 16 digits, hlt⟩ := dif_pos hlt
  have hbraces := bracedHex?_point hne hdigits rest
  have hassoc : (CodePoint.ofChar '\x7b' :: (digits ++ [CodePoint.ofChar '\x7d'])) ++ rest =
      CodePoint.ofChar '\x7b' :: (digits ++ CodePoint.ofChar '\x7d' :: rest) := by simp
  rw [escape, if_pos rfl, unicodeEscape, hassoc, hbraces]
  dsimp only
  rw [hc, Piece.points, hc]
  rfl

theorem escape_symbol {c : CodePoint} (h : (Piece.symbol c).Legal quote) (rest : Text) :
    escape c rest = ((Piece.symbol c).points, 0) := by
  obtain ⟨hu, hx, hdigit, hend⟩ := h
  have hline : isLineEnd c = false :=
    Bool.eq_false_iff.mpr fun h ↦ hend (mem_lineEnds_of_isLineEnd h)
  have hreturn : ¬(c = .carriageReturn ∧ rest.head? = some .lineFeed) := by
    rintro ⟨rfl, -⟩
    exact hend (by decide)
  rw [escape, if_neg hu, if_neg hx, hdigit]
  dsimp only
  rw [if_neg hreturn, hline, if_neg Bool.false_ne_true, letter_eq_escaped]
  rfl

theorem escape_lineEnd {c : CodePoint} {tail rest : Text}
    (h : (Piece.lineEnd (c :: tail)).Legal quote)
    (hrest : (Piece.lineEnd (c :: tail)).MayPrecede rest) :
    escape c (tail ++ rest) = ([], tail.length) := by
  simp only [Piece.Legal, lineEnds, List.mem_cons, List.cons.injEq, List.not_mem_nil, or_false] at h
  rcases h with ⟨rfl, rfl⟩ | ⟨rfl, rfl⟩ | ⟨rfl, rfl⟩ | ⟨rfl, rfl⟩ | ⟨rfl, rfl⟩
  · rfl
  · -- a line feed after a carriage return would belong to the same line end
    have hnot : ¬(CodePoint.carriageReturn = .carriageReturn ∧ rest.head? = some .lineFeed) :=
      fun h ↦ hrest rfl h.2
    rw [List.nil_append, escape, if_neg (by decide), if_neg (by decide)]
    exact if_neg hnot
  · rfl
  · rfl
  · rfl

theorem filterMap_digit? (h : IsNumeral 8 digits) :
    (digits.map (CodePoint.digit? 8)).filterMap id = digits.map fun d ↦ (d.digit? 8).getD 0 := by
  induction digits with
  | nil => rfl
  | cons d digits ih =>
      obtain ⟨⟨n, hn⟩, hrest⟩ := isNumeral_cons.mp h
      rw [List.map_cons, List.map_cons, hn, List.filterMap_cons_some (f := id) rfl, ih hrest,
        Option.getD_some]

theorem takeWhile_octal {rest : Text} (hdigits : IsNumeral 8 digits) (hle : digits.length ≤ 2)
    (hrest : ∀ d, rest.head? = some d → (d.digit? 8).isSome = true → digits.length = 2) :
    (((digits ++ rest).take 2).map (CodePoint.digit? 8)).takeWhile Option.isSome =
      digits.map (CodePoint.digit? 8) := by
  have hstop :
      ((rest.take (2 - digits.length)).map (CodePoint.digit? 8)).takeWhile Option.isSome = [] := by
    cases rest with
    | nil => rw [List.take_nil]; rfl
    | cons d rest =>
        by_cases hd : (d.digit? 8).isSome = true
        · rw [hrest d rfl hd, Nat.sub_self]
          rfl
        · cases 2 - digits.length with
          | zero => rfl
          | succ k => rw [List.take_succ_cons, List.map_cons, List.takeWhile_cons_of_neg hd]
  have hall : ∀ d? ∈ digits.map (CodePoint.digit? 8), d?.isSome = true := by
    intro d? hd
    obtain ⟨d, hmem, rfl⟩ := List.mem_map.mp hd
    exact hdigits d hmem
  rw [List.take_append, List.take_of_length_le hle, List.map_append,
    List.takeWhile_append_of_pos hall, hstop, List.append_nil]

/-- An octal number is read as it stands unless an octal digit follows that could belong to it. -/
theorem escape_octal {d : CodePoint} {rest : Text} (hle : (d :: digits).length ≤ 3)
    (hdigits : IsNumeral 8 (d :: digits)) (hrest : (Piece.octal (d :: digits)).Apart rest) :
    escape d (digits ++ rest) = ((Piece.octal (d :: digits)).points, digits.length) := by
  obtain ⟨⟨first, hfirst⟩, htail⟩ := isNumeral_cons.mp hdigits
  have hnot : ∀ c : CodePoint, c.digit? 8 = none → d ≠ c := by
    rintro c hc rfl
    rw [hfirst] at hc
    cases hc
  have htaken := takeWhile_octal htail (Nat.le_of_succ_le_succ hle)
    fun e he hoctal ↦ Nat.succ.inj (hrest e he hoctal)
  have hvalue : (digits.map fun d ↦ (d.digit? 8).getD 0).foldl (fun n d ↦ n * 8 + d) first =
      numeral 8 (d :: digits) := by
    rw [List.foldl_map, numeral, List.foldl_cons, hfirst, Option.getD_some, Nat.zero_mul,
      Nat.zero_add]
  rw [escape, if_neg (hnot 'u' (by decide)), if_neg (hnot 'x' (by decide)), hfirst]
  dsimp only
  rw [octalEscape, htaken, filterMap_digit? htail, hvalue, List.length_map]
  rfl

/-- An octal number of up to three digits is read as a whole, whatever its value. -/
theorem unescape_octal {rest : Text} (hne : digits ≠ []) (hle : digits.length ≤ 3)
    (hdigits : IsNumeral 8 digits) (hrest : (Piece.octal digits).Apart rest) :
    unescape ((Piece.octal digits).text ++ rest) =
      (Piece.octal digits).points ++ unescape rest := by
  cases digits with
  | nil => exact absurd rfl hne
  | cons d digits => exact unescape_escape (escape_octal hle hdigits hrest)

/-- A piece is read as what it spells. -/
theorem unescape_piece {p : Piece} {rest : Text} (h : p.Legal quote) (hrest : p.MayPrecede rest)
    (hapart : p.Apart rest) :
    unescape (p.text ++ rest) = p.points ++ unescape rest := by
  cases p with
  | plain c => exact unescape_cons h.2.1 rest
  | symbol c =>
      have hescape : escape c ([] ++ rest) = ((Piece.symbol c).points, 0) := escape_symbol h rest
      exact unescape_escape hescape
  | byte digits => exact unescape_escape (escape_byte h rest)
  | unit digits => exact unescape_escape (escape_unit h rest)
  | point digits =>
      refine unescape_escape ?_
      rw [escape_point h rest]
      simp
  | octal digits => exact unescape_octal h.1 h.2.1 h.2.2.1 hapart
  | lineEnd ends =>
      cases ends with
      | nil =>
          have hmem : [] ∈ lineEnds := h
          exact absurd hmem (by decide)
      | cons c tail => exact unescape_escape (escape_lineEnd h hrest)

end

/-! ### Values of literals -/

def Standard (quote : CodePoint) (p : Piece) (rest : Text) : Prop :=
  p.Legal quote ∧ p.MayPrecede rest

instance (quote : CodePoint) (p : Piece) (rest : Text) : Decidable (Standard quote p rest) :=
  inferInstanceAs (Decidable (_ ∧ _))

/-- The pieces of ECMAScript literals, without octal numbers that end before an octal digit that
would make them greater than `\377`. -/
def Separate (quote : CodePoint) (p : Piece) (rest : Text) : Prop :=
  Standard quote p rest ∧ p.Apart rest

instance (quote : CodePoint) (p : Piece) (rest : Text) : Decidable (Separate quote p rest) :=
  inferInstanceAs (Decidable (_ ∧ _))

def quotes : List CodePoint := [.quotationMark, .apostrophe]

/-- The string value of a literal whose pieces suit: the code units that they spell. -/
def HasValue (suits : CodePoint → Piece → Text → Prop) (raw value : Text) : Prop :=
  ∃ quote ∈ quotes, ∃ ps, raw = quote :: (written ps ++ [quote]) ∧ AllSuit (suits quote) ps ∧
    value = Text.units (ps.flatMap Piece.points)

/-- A literal whose pieces stand apart is read piece by piece. -/
theorem unescape_written {quote : CodePoint} {ps : List Piece} (h : AllSuit (Separate quote) ps) :
    unescape (written ps) = ps.flatMap Piece.points := by
  induction ps with
  | nil =>
      rw [written, List.flatMap_nil, unescape]
      rfl
  | cons p ps ih =>
      obtain ⟨⟨⟨hlegal, hrest⟩, hapart⟩, hps⟩ := h
      rw [written, List.flatMap_cons, List.flatMap_cons, ← ih hps]
      exact unescape_piece hlegal hrest hapart

theorem unquote_of_mem_quotes {quote : CodePoint} (hquote : quote ∈ quotes) (body : Text) :
    unquote (quote :: (body ++ [quote])) = body := by
  have hlength : 2 ≤ (quote :: (body ++ [quote])).length := by simp
  have hlast : (quote :: (body ++ [quote])).getLast? = some quote := by
    rw [← List.cons_append, List.getLast?_concat]
  have hhead : some quote = some .quotationMark ∨ some quote = some .apostrophe := by
    simpa [quotes] using hquote
  rw [unquote, hlast, if_pos ⟨hlength, rfl, hhead⟩, List.drop_one, List.tail_cons,
    List.dropLast_concat]

/-- The text that is read from a literal is its string value, with surrogate pairs joined. -/
theorem value_of_hasValue {raw units : Text} (h : HasValue Separate raw units) :
    value raw = Text.joinPairs units := by
  obtain ⟨quote, hquote, ps, rfl, hps, rfl⟩ := h
  rw [value, unquote_of_mem_quotes hquote, unescape_written hps, Text.joinPairs_units]

end StringLiteral

namespace Identifier

open StringLiteral (Piece AllSuit written)

/-- The pieces of identifiers: code points other than the backslash, and numbered escapes. -/
def IsPart : Piece → Prop
  | .plain c => c ≠ .backslash
  | .unit digits => (Piece.unit digits).Legal .quotationMark
  | .point digits => (Piece.point digits).Legal .quotationMark
  | _ => False

instance : (p : Piece) → Decidable (IsPart p)
  | .plain c => inferInstanceAs (Decidable (c ≠ .backslash))
  | .unit digits => inferInstanceAs (Decidable ((Piece.unit digits).Legal .quotationMark))
  | .point digits => inferInstanceAs (Decidable ((Piece.point digits).Legal .quotationMark))
  | .symbol _ | .byte _ | .octal _ | .lineEnd _ => isFalse id

def HasValue (raw value : Text) : Prop :=
  ∃ ps, raw = written ps ∧ AllSuit (fun p _ ↦ IsPart p) ps ∧
    value = Text.units (ps.flatMap Piece.points)

end Identifier

end CallAudit
