import CallAudit.Markup
import Mathlib.Data.List.TakeWhile

/-!
# Escaped markup

A text can be taken apart into pieces and put together again.  Escaping puts backslashes before its
tags and nowhere else, so that the escaped text has its tags in the same places, each behind an odd
number of backslashes: none of them is read as a tag.
-/

namespace CallAudit

namespace Markup

/-! ### Tags and pieces -/

/-- A tag is an opening bracket, a code point that opens a tag, and everything up to the next
closing bracket, if no opening bracket comes before that. -/
structure IsTag (tag : Text) (first : CodePoint) (inner : Text) : Prop where
  opens : opensTag first = true
  noBracket : ∀ c ∈ inner, c ≠ openingBracket ∧ c ≠ closingBracket
  eq : tag = openingBracket :: first :: (inner ++ [closingBracket])

theorem tag?_of_isTag {tag : Text} {first : CodePoint} {inner : Text} (h : IsTag tag first inner)
    (rest : Text) :
    tag? (tag ++ rest) = some tag := by
  have hinner : (inner ++ closingBracket :: rest).takeWhile
      (fun d ↦ d != openingBracket && d != closingBracket) = inner := by
    rw [List.takeWhile_append_of_pos (by simpa using h.noBracket),
      List.takeWhile_cons_of_neg (by simp), List.append_nil]
  have htag : tag ++ rest = openingBracket :: first :: (inner ++ closingBracket :: rest) := by
    simp [h.eq]
  rw [htag, tag?, if_pos ⟨rfl, h.opens⟩, hinner]
  dsimp only
  rw [List.drop_left, List.head?_cons, if_pos rfl, h.eq]
  rfl

/-- What is recognised as a tag is one. -/
theorem exists_isTag_of_tag? {t tag : Text} (h : tag? t = some tag) :
    ∃ first inner rest, IsTag tag first inner ∧ t = tag ++ rest := by
  unfold tag? at h
  split at h
  · next bracket first rest =>
    split at h
    · next hopens =>
      dsimp only at h
      split at h
      · next hcloses =>
        cases h
        obtain ⟨later, hlater⟩ := List.head?_eq_some_iff.mp hcloses
        have hrest := List.prefix_iff_eq_append.mp
          (List.takeWhile_prefix (l := rest) fun d ↦ d != openingBracket && d != closingBracket)
        rw [hlater] at hrest
        refine ⟨first, rest.takeWhile fun d ↦ d != openingBracket && d != closingBracket, later,
          ⟨hopens.2, ?_, ?_⟩, ?_⟩
        · intro c hc
          simpa using List.mem_takeWhile_imp hc
        · rw [hopens.1]
          rfl
        · rw [List.append_assoc, List.singleton_append, List.cons_append, List.cons_append, hrest]
      · cases h
    · cases h
  · cases h

theorem tag?_backslash (t : Text) : tag? (.backslash :: t) = none := by
  cases t with
  | nil => rfl
  | cons c t =>
      rw [tag?, if_neg]
      exact fun h ↦ absurd h.1 (by decide)

def Piece.raw : Piece → Text
  | plain t => t
  | tag n t => backslashes n ++ t

theorem exists_eq_append_backslashes (t : Text) :
    ∃ s, t = s ++ backslashes (trailingBackslashes t) := by
  have htake :
      t.reverse.takeWhile (fun c ↦ c == .backslash) = backslashes (trailingBackslashes t) := by
    apply List.eq_replicate_of_mem
    intro c hc
    simpa using List.mem_takeWhile_imp hc
  have hsplit :=
    congrArg List.reverse (List.takeWhile_append_dropWhile (p := fun c ↦ c == .backslash)
      (l := t.reverse))
  rw [htake, List.reverse_append, List.reverse_reverse, backslashes, List.reverse_replicate]
    at hsplit
  exact ⟨_, hsplit.symm⟩

theorem take_append_backslashes (t : Text) :
    t.take (t.length - trailingBackslashes t) ++ backslashes (trailingBackslashes t) = t := by
  obtain ⟨s, hs⟩ := exists_eq_append_backslashes t
  have hlength := congrArg List.length hs
  rw [List.length_append, backslashes, List.length_replicate] at hlength
  have htake : t.take (t.length - trailingBackslashes t) = s := by
    rw [hlength, Nat.add_sub_cancel]
    exact (congrArg (List.take s.length) hs).trans List.take_left
  rw [htake, ← hs]

theorem trailingBackslashes_append (t : Text) (n : Nat) :
    trailingBackslashes (t ++ backslashes n) = n + trailingBackslashes t := by
  have hall : ∀ c ∈ backslashes n, (c == .backslash) = true := by
    intro c hc
    rw [List.eq_of_mem_replicate hc]
    rfl
  rw [trailingBackslashes, List.reverse_append, backslashes, List.reverse_replicate, ← backslashes,
    List.takeWhile_append_of_pos hall, List.length_append, backslashes, List.length_replicate,
    trailingBackslashes]

theorem piecesFrom_tag {tag : Text} {first : CodePoint} {inner : Text} (h : IsTag tag first inner)
    (plain later : Text) :
    piecesFrom plain (tag ++ later) =
      .plain (plain.take (plain.length - trailingBackslashes plain)) ::
        .tag (trailingBackslashes plain) tag ::
        piecesFrom [] later := by
  obtain ⟨c, rest, hrest⟩ : ∃ c rest, tag = c :: rest := ⟨_, _, h.eq⟩
  have htag := tag?_of_isTag h later
  rw [hrest, List.cons_append] at htag ⊢
  rw [piecesFrom, htag]
  dsimp only
  rw [List.length_cons, Nat.add_sub_cancel, List.drop_left]

theorem piecesFrom_cons {c : CodePoint} {rest : Text} (h : tag? (c :: rest) = none) (plain : Text) :
    piecesFrom plain (c :: rest) = piecesFrom (plain ++ [c]) rest := by
  rw [piecesFrom, h]

/-- The steps of taking a text apart: it is at its end, at a tag, or at a code point that begins
none. -/
theorem piecesInduction {motive : Text → Text → Prop} (nil : ∀ plain, motive plain [])
    (tag : ∀ plain tag first inner later, IsTag tag first inner → motive [] later →
      motive plain (tag ++ later))
    (cons : ∀ plain c rest, tag? (c :: rest) = none → motive (plain ++ [c]) rest →
      motive plain (c :: rest))
    (plain t : Text) : motive plain t := by
  fun_induction piecesFrom plain t with
  | case1 plain => exact nil plain
  | case2 plain c rest found htag count ih =>
      obtain ⟨first, inner, later, hfound, hrest⟩ := exists_isTag_of_tag? htag
      have hlater : rest.drop (found.length - 1) = later := by
        obtain ⟨d, tail, htail⟩ : ∃ d tail, found = d :: tail := ⟨_, _, hfound.eq⟩
        rw [htail, List.cons_append] at hrest
        rw [htail, (List.cons.inj hrest).2, List.length_cons, Nat.add_sub_cancel, List.drop_left]
      rw [hrest]
      exact tag plain found first inner later hfound (hlater ▸ ih)
  | case3 plain c rest htag ih => exact cons plain c rest htag ih

/-- Nothing is lost when a text is taken apart. -/
theorem flatMap_raw_piecesFrom (plain t : Text) :
    (piecesFrom plain t).flatMap Piece.raw = plain ++ t := by
  induction plain, t using piecesInduction with
  | nil plain => simp [piecesFrom, Piece.raw]
  | tag plain tag first inner later htag ih =>
      rw [piecesFrom_tag htag, List.flatMap_cons, List.flatMap_cons, ih, Piece.raw, Piece.raw,
        List.nil_append, ← List.append_assoc, ← List.append_assoc, take_append_backslashes,
        List.append_assoc]
  | cons plain c rest htag ih =>
      rw [piecesFrom_cons htag, ih, List.append_assoc, List.singleton_append]

/-! ### Inserted backslashes -/

/-- The second text has more backslashes than the first, before opening brackets and at its end. -/
inductive Marked : Text → Text → Prop
  | nil (n : Nat) : Marked [] (backslashes n)
  | cons (c : CodePoint) {s t : Text} (h : Marked s t) : Marked (c :: s) (c :: t)
  | mark {s t : Text} (h : Marked (openingBracket :: s) t) :
      Marked (openingBracket :: s) (.backslash :: t)

theorem Marked.append {s t : Text} (h : Marked s t) (u : Text) : Marked (u ++ s) (u ++ t) := by
  induction u with
  | nil => exact h
  | cons c u ih => exact .cons c ih

theorem Marked.backslashes {s t : Text} (h : Marked (openingBracket :: s) t) (n : Nat) :
    Marked (openingBracket :: s) (Markup.backslashes n ++ t) := by
  induction n with
  | zero => exact h
  | succ n ih => exact .mark ih

/-- Nothing but backslashes is put in. -/
theorem Marked.mem_or_eq_backslash {s t : Text} (h : Marked s t) {c : CodePoint} (hc : c ∈ t) :
    c ∈ s ∨ c = .backslash := by
  induction h with
  | nil n => exact .inr (List.eq_of_mem_replicate hc)
  | cons d h ih =>
      rcases List.mem_cons.mp hc with rfl | hc
      · exact .inl List.mem_cons_self
      · exact (ih hc).imp_left (List.mem_cons_of_mem d)
  | mark h ih =>
      rcases List.mem_cons.mp hc with rfl | hc
      · exact .inr rfl
      · exact ih hc

/-- Up to a closing bracket before which nothing opens, no backslash was inserted. -/
theorem Marked.exists_eq_of_append {s t : Text} (h : Marked s t) {u rest : Text}
    (hu : openingBracket ∉ u) (ht : t = u ++ closingBracket :: rest) :
    ∃ rest', s = u ++ closingBracket :: rest' := by
  induction h generalizing u with
  | nil n =>
      have hmem : closingBracket ∈ Markup.backslashes n :=
        ht ▸ List.mem_append_right u List.mem_cons_self
      exact absurd (List.eq_of_mem_replicate hmem) (by decide)
  | cons c h ih =>
      cases u with
      | nil => exact ⟨_, congrArg (· :: _) (List.cons.inj ht).1⟩
      | cons d u =>
          obtain ⟨hcd, htail⟩ := List.cons.inj ht
          obtain ⟨rest', hrest⟩ := ih (fun hmem ↦ hu (List.mem_cons_of_mem _ hmem)) htail
          exact ⟨rest', by rw [hcd, hrest, List.cons_append]⟩
  | mark h ih =>
      cases u with
      | nil => exact absurd (List.cons.inj ht).1 (by decide)
      | cons d u =>
          obtain ⟨rest', hrest⟩ :=
            ih (fun hmem ↦ hu (List.mem_cons_of_mem _ hmem)) (List.cons.inj ht).2
          cases u with
          | nil => exact absurd (List.cons.inj hrest).1 (by decide)
          | cons e u =>
              have he : openingBracket = e := (List.cons.inj hrest).1
              exact absurd (by simp [he]) hu

/-- Where no tag begins, none begins after backslashes were inserted behind. -/
theorem Marked.tag?_eq_none {s t : Text} (h : Marked s t) {c : CodePoint}
    (hc : tag? (c :: s) = none) :
    tag? (c :: t) = none := by
  cases htag : tag? (c :: t) with
  | none => rfl
  | some tag =>
      obtain ⟨first, inner, rest, hfound, hrest⟩ := exists_isTag_of_tag? htag
      have hfirst : openingBracket ≠ first := by
        rintro rfl
        exact absurd hfound.opens (by decide)
      have hopening : openingBracket ∉ first :: inner := by
        rw [List.mem_cons, not_or]
        exact ⟨hfirst, fun hmem ↦ (hfound.noBracket _ hmem).1 rfl⟩
      rw [hfound.eq, List.cons_append, List.cons_append, List.append_assoc] at hrest
      obtain ⟨hbracket, htail⟩ := List.cons.inj hrest
      obtain ⟨rest', hs⟩ := h.exists_eq_of_append hopening htail
      -- the tag is there without the inserted backslashes too
      have hthere : c :: s = tag ++ rest' := by
        rw [hbracket, hs, hfound.eq]
        simp
      rw [hthere, tag?_of_isTag hfound] at hc
      cases hc

theorem piecesFrom_backslashes (plain : Text) (n : Nat) (t : Text) :
    piecesFrom plain (backslashes n ++ t) = piecesFrom (plain ++ backslashes n) t := by
  induction n generalizing plain with
  | zero => rw [backslashes, List.replicate_zero, List.nil_append, List.append_nil]
  | succ n ih =>
      rw [backslashes, List.replicate_succ, List.cons_append, piecesFrom_cons (tag?_backslash _),
        ← backslashes, ih, List.append_assoc, List.singleton_append]

/-- No tag is read as one: each stands behind an odd number of backslashes. -/
def Inert (pieces : List Piece) : Prop := ∀ n tag, .tag n tag ∈ pieces → n % 2 = 1

theorem inert_piecesFrom_nil (plain : Text) : Inert (piecesFrom plain []) := by
  intro n tag hmem
  rw [piecesFrom, List.mem_singleton] at hmem
  cases hmem

/-- What escaping makes of the rest of a text: backslashes are inserted, and the tags of the result
are inert. -/
theorem exists_marked (plain t : Text) (n : Nat) :
    ∃ s, (piecesFrom plain t).flatMap Piece.escape ++ backslashes n = plain ++ s ∧ Marked t s ∧
      Inert (piecesFrom plain s) := by
  induction plain, t using piecesInduction with
  | nil plain =>
      refine ⟨backslashes n, ?_, .nil n, ?_⟩
      · simp [piecesFrom, Piece.escape]
      · rw [← List.append_nil (backslashes n), piecesFrom_backslashes]
        exact inert_piecesFrom_nil _
  | tag plain tag first inner later htag ih =>
      obtain ⟨s, hs, hmarked, hinert⟩ := ih
      refine ⟨backslashes (trailingBackslashes plain + 1) ++ (tag ++ s), ?_, ?_, ?_⟩
      · have hdouble : backslashes (2 * trailingBackslashes plain + 1) =
            backslashes (trailingBackslashes plain) ++
              backslashes (trailingBackslashes plain + 1) := by
          rw [backslashes, backslashes, backslashes, List.replicate_append_replicate]
          congr 1
          omega
        rw [piecesFrom_tag htag, List.flatMap_cons, List.flatMap_cons, List.append_assoc,
          List.append_assoc, hs, Piece.escape, Piece.escape, hdouble, List.nil_append,
          List.append_assoc, List.append_assoc, ← List.append_assoc (List.take _ _),
          take_append_backslashes]
      · have hbehind : Marked (tag ++ later) (tag ++ s) := hmarked.append tag
        rw [htag.eq] at hbehind ⊢
        exact hbehind.backslashes _
      · rw [piecesFrom_backslashes, piecesFrom_tag htag, trailingBackslashes_append]
        intro m found hmem
        rcases List.mem_cons.mp hmem with hplain | hmem
        · cases hplain
        · rcases List.mem_cons.mp hmem with heq | hmem
          · cases heq
            omega
          · exact hinert m found hmem
  | cons plain c rest htag ih =>
      obtain ⟨s, hs, hmarked, hinert⟩ := ih
      refine ⟨c :: s, ?_, hmarked.cons c, ?_⟩
      · rw [piecesFrom_cons htag, hs, List.append_assoc, List.singleton_append]
      · rwa [piecesFrom_cons (hmarked.tag?_eq_none htag)]

theorem exists_escape_eq (t : Text) :
    ∃ n, escape t = (pieces t).flatMap Piece.escape ++ backslashes n := by
  unfold escape
  dsimp only
  split
  · exact ⟨1, rfl⟩
  · exact ⟨0, (List.append_nil _).symm⟩

/-- An escaped text has no tag that is read as one. -/
theorem inert_pieces_escape (t : Text) : Inert (pieces (escape t)) := by
  obtain ⟨n, hn⟩ := exists_escape_eq t
  obtain ⟨s, hs, -, hinert⟩ := exists_marked [] t n
  rw [hn, pieces, pieces, hs]
  exact hinert

/-- Escaping puts nothing into a text but backslashes. -/
theorem mem_or_eq_backslash_of_mem_escape {t : Text} {c : CodePoint} (hc : c ∈ escape t) :
    c ∈ t ∨ c = .backslash := by
  obtain ⟨n, hn⟩ := exists_escape_eq t
  obtain ⟨s, hs, hmarked, -⟩ := exists_marked [] t n
  rw [hn, pieces, hs] at hc
  exact hmarked.mem_or_eq_backslash hc

end Markup

end CallAudit
