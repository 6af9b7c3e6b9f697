import CallAudit.Proofs.ExitCodes
import CallAudit.Proofs.MarkupEscapes
import CallAudit.Proofs.PlainTerminals

/-!
# Surrogates in what is printed

What is shown of a text has the surrogates of the text: neither the codes of emoji nor the escapes
of markup add or remove any.  So a text has none on a terminal if it was made fit for the terminal
before.  Everything that a command prints is, except the names of files in the table of functions.
-/

namespace CallAudit

/-! ### Surrogates of a text -/

namespace Text

def surrogates (t : Text) : Text := t.filter fun c ↦ decide c.IsSurrogate

variable {s t : Text}

theorem surrogates_eq_nil_iff : t.surrogates = [] ↔ t.Scalar := by
  simp [surrogates, Scalar, List.filter_eq_nil_iff]

@[simp] theorem surrogates_append (s t : Text) :
    (s ++ t).surrogates = s.surrogates ++ t.surrogates :=
  List.filter_append ..

theorem surrogates_cons (c : CodePoint) (t : Text) :
    surrogates (c :: t) = surrogates [c] ++ surrogates t :=
  surrogates_append [c] t

theorem surrogates_flatMap {α : Type} (f : α → Text) (as : List α) :
    surrogates (as.flatMap f) = as.flatMap fun a ↦ surrogates (f a) :=
  List.filter_flatMap

theorem Scalar.append (hs : s.Scalar) (ht : t.Scalar) : Scalar (s ++ t) :=
  List.forall_mem_append.mpr ⟨hs, ht⟩

theorem Scalar.of_subset (ht : t.Scalar) (h : s ⊆ t) : s.Scalar := fun c hc ↦ ht c (h hc)

/-- Characters are never surrogates. -/
theorem scalar_map_ofChar (cs : List Char) : Scalar (cs.map CodePoint.ofChar) := by
  intro d hd
  obtain ⟨c, -, rfl⟩ := List.mem_map.mp hd
  have hvalid := c.valid
  simp only [UInt32.isValidChar, Nat.isValidChar] at hvalid
  unfold CodePoint.IsSurrogate
  simp only [CodePoint.value_ofChar, Char.toNat]
  omega

theorem Ascii.scalar (h : t.Ascii) : t.Scalar := by
  intro c hc
  have hascii := h c hc
  unfold CodePoint.isAscii at hascii
  unfold CodePoint.IsSurrogate
  rw [decide_eq_true_iff] at hascii
  omega

theorem mem_of_mem_splitAt {c d : CodePoint} {piece : Text} (hpiece : piece ∈ splitAt c t)
    (hd : d ∈ piece) :
    d ∈ t := by
  induction t generalizing piece with
  | nil => simp_all [splitAt]
  | cons e t ih =>
      rw [splitAt] at hpiece
      cases hsplit : splitAt c t with
      | nil =>
          rw [hsplit] at hpiece
          rw [List.mem_singleton.mp hpiece, List.mem_singleton] at hd
          exact hd ▸ List.mem_cons_self
      | cons first pieces =>
          have hlater : ∀ {p : Text}, p ∈ first :: pieces → d ∈ p → d ∈ e :: t :=
            fun hp hdp ↦ List.mem_cons_of_mem e (ih (hsplit ▸ hp) hdp)
          rw [hsplit] at hpiece
          dsimp only at hpiece
          split at hpiece
          · rcases List.mem_cons.mp hpiece with rfl | hpiece
            · cases hd
            · exact hlater hpiece hd
          · rcases List.mem_cons.mp hpiece with rfl | hpiece
            · rcases List.mem_cons.mp hd with rfl | hd
              · exact List.mem_cons_self
              · exact hlater List.mem_cons_self hd
            · exact hlater (List.mem_cons_of_mem _ hpiece) hd

end Text

/-! ### Lower case and emoji -/

/-- Surrogates have no case. -/
theorem CodePoint.lower_of_isSurrogate {c : CodePoint} (h : c.IsSurrogate) : c.lower = [c] := by
  have hruns : ∀ run ∈ CaseRun.lower, run.last < 0xD800 ∨ 0xDFFF < run.first := by decide +kernel
  have hnone : CaseRun.lower.findSome? (fun run ↦ run.image? c.value) = none := by
    rw [List.findSome?_eq_none_iff]
    intro run hrun
    have hrange := hruns run hrun
    unfold CodePoint.IsSurrogate at h
    exact if_neg (by omega)
  rw [lower, if_neg, hnone]
  · rfl
  · rintro rfl
    exact absurd h (by decide)

theorem Text.mem_lower_of_isSurrogate {c : CodePoint} {t : Text} (hc : c ∈ t) (h : c.IsSurrogate) :
    c ∈ t.lower := by
  unfold Text.lower
  suffices hfrom : ∀ before, c ∈ Text.lowerFrom before t from hfrom []
  induction t with
  | nil => cases hc
  | cons d t ih =>
      intro before
      rw [Text.lowerFrom, List.mem_append]
      rcases List.mem_cons.mp hc with rfl | hc
      · have hsigma : c ≠ .capitalSigma := by
          rintro rfl
          exact absurd h (by decide)
        left
        rw [if_neg hsigma, CodePoint.lower_of_isSurrogate h]
        exact List.mem_singleton_self c
      · exact .inr (ih hc (d :: before))

namespace Emoji

theorem mem_of_mem_pairUp {texts : List Text} {entry : Text × Text} (h : entry ∈ pairUp texts) :
    entry.1 ∈ texts ∧ entry.2 ∈ texts := by
  fun_induction pairUp texts with
  | case1 name emoji rest ih =>
      rcases List.mem_cons.mp h with rfl | hrest
      · simp
      · simp [ih hrest]
  | case2 => cases h

theorem scalar_of_mem_names {entry : Text × Text} (h : entry ∈ names) :
    entry.1.Scalar ∧ entry.2.Scalar := by
  obtain ⟨line, -, hentry⟩ := List.mem_flatMap.mp h
  have hline : Text.Scalar (Text.ofString line) := Text.scalar_map_ofChar _
  obtain ⟨hname, hemoji⟩ := mem_of_mem_pairUp hentry
  exact ⟨fun c hc ↦ hline c (Text.mem_of_mem_splitAt hname hc),
    fun c hc ↦ hline c (Text.mem_of_mem_splitAt hemoji hc)⟩

/-- A code that stands for an emoji has no surrogates, nor has the emoji. -/
theorem scalar_of_ofCode? {code shown : Text} (h : ofCode? code = some shown) :
    code.Scalar ∧ shown.Scalar := by
  obtain ⟨emoji, hfind, rfl⟩ := Option.map_eq_some_iff.mp h
  have hmem : ((parts code).1.lower, emoji) ∈ names := by
    rw [find?, List.lookup_eq_findSome?] at hfind
    obtain ⟨entry, hentry, hsome⟩ := List.exists_of_findSome?_eq_some hfind
    split at hsome
    · next hname =>
      cases hsome
      rwa [beq_iff_eq.mp hname]
    · cases hsome
  obtain ⟨hlower, hemoji⟩ := scalar_of_mem_names hmem
  have hname : (parts code).1.Scalar := fun c hc hsurrogate ↦
    hlower c (Text.mem_lower_of_isSurrogate hc hsurrogate) hsurrogate
  have hparts : (∀ c ∈ code, c ∈ (parts code).1 ∨ ¬ c.IsSurrogate) ∧ (parts code).2.Scalar := by
    unfold parts
    split
    · next form hform =>
      have hends := List.find?_some hform
      obtain ⟨name, hcode⟩ := List.isSuffixOf_iff_suffix.mp hends
      have htake : code.take (code.length - (Text.ofString form.1).length) = name := by
        rw [← hcode, List.length_append, Nat.add_sub_cancel, List.take_left]
      refine ⟨fun c hc ↦ ?_, Text.scalar_map_ofChar [form.2]⟩
      rw [htake]
      rw [← hcode, List.mem_append] at hc
      exact hc.imp_right fun hmem ↦ Text.scalar_map_ofChar _ c hmem
    · exact ⟨fun c hc ↦ .inl hc, Text.scalar_nil⟩
  refine ⟨?_, hemoji.append hparts.2⟩
  intro c hc hsurrogate
  rcases hparts.1 c hc with hmem | hscalar
  · exact hname c hmem hsurrogate
  · exact hscalar hsurrogate

theorem exists_eq_of_code? {t code : Text} (h : code? t = some code) :
    ∃ d later, isColon d = true ∧ t = code ++ d :: later := by
  unfold code? at h
  dsimp only at h
  split at h
  · next hcolon =>
    cases h
    have hsplit :=
      List.prefix_iff_eq_append.mp (List.takeWhile_prefix (l := t) fun c ↦ !isColon c && !c.isBlank)
    cases hlater : t.drop (t.takeWhile fun c ↦ !isColon c && !c.isBlank).length with
    | nil =>
        rw [hlater] at hcolon
        cases hcolon
    | cons d later =>
        rw [hlater] at hcolon hsplit
        exact ⟨d, later, hcolon, hsplit.symm⟩
  · cases h

/-- The codes of emoji and the emoji themselves are free of surrogates. -/
theorem surrogates_replace (t : Text) : (replace t).surrogates = t.surrogates := by
  fun_induction replace t with
  | case1 => rfl
  | case2 c rest hcolon code hcode ih =>
      obtain ⟨d, later, hd, hrest⟩ := exists_eq_of_code? hcode
      have hlater : rest.drop (code.length + 1) = later := by
        rw [hrest, ← List.drop_drop, List.drop_left, List.drop_one, List.tail_cons]
      have hcolons : ∀ {e : CodePoint}, isColon e = true → Text.surrogates [e] = [] := by
        intro e he
        rw [isColon, beq_iff_eq] at he
        rw [he]
        decide
      rw [Text.surrogates_append, ih, hlater, hrest, Text.surrogates_cons c, Text.surrogates_append,
        Text.surrogates_cons d, hcolons hcolon, hcolons hd]
      cases hof : ofCode? code with
      | none =>
          rw [Option.getD_none, List.cons_append, Text.surrogates_cons, Text.surrogates_append,
            hcolons hcolon]
          simp
      | some shown =>
          obtain ⟨hscalar, hshown⟩ := scalar_of_ofCode? hof
          rw [Option.getD_some, Text.surrogates_eq_nil_iff.mpr hscalar,
            Text.surrogates_eq_nil_iff.mpr hshown]
          rfl
  | case3 c rest hcolon hcode ih => rw [Text.surrogates_cons, ih, ← Text.surrogates_cons]
  | case4 c rest hcolon ih => rw [Text.surrogates_cons, ih, ← Text.surrogates_cons]

end Emoji

/-! ### Markup -/

namespace Markup

theorem surrogates_backslashes (n : Nat) : Text.surrogates (backslashes n) = [] := by
  rw [Text.surrogates_eq_nil_iff]
  intro c hc
  rw [List.eq_of_mem_replicate hc]
  decide

theorem surrogates_unescapeBrackets (t : Text) :
    (unescapeBrackets t).surrogates = t.surrogates := by
  -- a backslash is looked at together with what follows it, so the induction takes a text and its
  -- extensions by one
  suffices h : (unescapeBrackets t).surrogates = t.surrogates ∧
      ∀ c, (unescapeBrackets (c :: t)).surrogates = Text.surrogates (c :: t) from h.1
  induction t with
  | nil => exact ⟨rfl, fun c ↦ rfl⟩
  | cons d rest ih =>
      refine ⟨ih.2 d, fun c ↦ ?_⟩
      rw [unescapeBrackets]
      split
      · next h =>
        rw [Text.surrogates_cons d, ih.1, ← Text.surrogates_cons d, Text.surrogates_cons c, h.1]
        rfl
      · rw [Text.surrogates_cons, ih.2 d, ← Text.surrogates_cons]

theorem surrogates_visible (t : Text) : (visible t).surrogates = t.surrogates := by
  rw [visible, Text.surrogates, List.filter_filter]
  apply List.filter_congr
  intro c _
  have hcontrol : c.IsSurrogate → isControl c = false := by
    intro h
    unfold CodePoint.IsSurrogate at h
    simp [isControl, CodePoint.within]
    omega
  by_cases h : c.IsSurrogate
  · simp [h, hcontrol h]
  · simp [h]

theorem surrogates_escapePiece (q : Piece) : q.escape.surrogates = q.raw.surrogates := by
  cases q with
  | plain t => rfl
  | tag n t => simp [Piece.escape, Piece.raw, surrogates_backslashes]

theorem surrogates_showPiece {q : Piece} (h : ∀ n tag, q = .tag n tag → n % 2 = 1) :
    q.show.surrogates = q.raw.surrogates := by
  cases q with
  | plain t => rw [Piece.show, Emoji.surrogates_replace, surrogates_unescapeBrackets, Piece.raw]
  | tag n t =>
      rw [Piece.show, if_pos (h n t rfl), Text.surrogates_append, surrogates_backslashes,
        Emoji.surrogates_replace, Piece.raw, Text.surrogates_append, surrogates_backslashes]

/-- A tag that is read as one shows only backslashes, so that no piece shows a surrogate that it has
not. -/
theorem scalar_showPiece {q : Piece} (h : q.raw.Scalar) : q.show.Scalar := by
  by_cases hinert : ∀ n tag, q = .tag n tag → n % 2 = 1
  · rw [← Text.surrogates_eq_nil_iff] at h ⊢
    rw [surrogates_showPiece hinert, h]
  · push Not at hinert
    obtain ⟨n, tag, rfl, hodd⟩ := hinert
    rw [Piece.show, if_neg hodd, List.append_nil]
    exact Text.surrogates_eq_nil_iff.mp (surrogates_backslashes _)

theorem surrogates_flatMap_raw (t : Text) :
    (pieces t).flatMap (fun q ↦ q.raw.surrogates) = t.surrogates := by
  rw [← Text.surrogates_flatMap, pieces, flatMap_raw_piecesFrom, List.nil_append]

theorem surrogates_escape (t : Text) : (escape t).surrogates = t.surrogates := by
  obtain ⟨n, hn⟩ := exists_escape_eq t
  rw [hn, Text.surrogates_append, surrogates_backslashes, List.append_nil, Text.surrogates_flatMap,
    ← surrogates_flatMap_raw]
  exact List.flatMap_congr fun q _ ↦ surrogates_escapePiece q

/-- Where no tag is acted upon, what is shown has the surrogates of the text. -/
theorem surrogates_render {t : Text} (h : Inert (pieces t)) :
    (render t).surrogates = t.surrogates := by
  rw [render, surrogates_visible, Text.surrogates_flatMap, ← surrogates_flatMap_raw]
  apply List.flatMap_congr
  intro q hq
  exact surrogates_showPiece fun n tag heq ↦ h n tag (heq ▸ hq)

/-- An escaped text is shown with the surrogates of the text. -/
theorem surrogates_render_escape (t : Text) : (render (escape t)).surrogates = t.surrogates := by
  rw [surrogates_render (inert_pieces_escape t), surrogates_escape]

theorem scalar_render {t : Text} (h : t.Scalar) : (render t).Scalar := by
  rw [← Text.surrogates_eq_nil_iff, ← surrogates_flatMap_raw, List.flatMap_eq_nil_iff] at h
  rw [← Text.surrogates_eq_nil_iff, render, surrogates_visible, Text.surrogates_flatMap,
    List.flatMap_eq_nil_iff]
  intro q hq
  exact Text.surrogates_eq_nil_iff.mpr (scalar_showPiece (Text.surrogates_eq_nil_iff.mp (h q hq)))

theorem scalar_renderPlain {t : Text} (h : t.Scalar) : (renderPlain t).Scalar := by
  rw [← Text.surrogates_eq_nil_iff] at h ⊢
  rw [renderPlain, surrogates_visible, Emoji.surrogates_replace, h]

end Markup

/-! ### Terminals -/

namespace Terminal

theorem scalar_plain (table : List (Char × String)) {c : CodePoint} (hc : ¬ c.IsSurrogate) :
    (plain table c).Scalar := by
  unfold plain
  split
  · exact Text.scalar_map_ofChar _
  · exact Text.scalar_nil.cons hc

/-- A text that was made fit has no surrogates, on any terminal. -/
theorem scalar_sanitize (terminal : Terminal) (t : Text) : (terminal.sanitize t).Scalar := by
  rw [sanitize_eq_flatMap]
  intro d hd
  obtain ⟨c, -, hd⟩ := List.mem_flatMap.mp hd
  unfold shown at hd
  split at hd
  · exact c.ascii_escape.scalar d hd
  · next hc =>
    split at hd
    · exact Text.scalar_nil.cons hc d hd
    · exact scalar_plain symbols hc d hd

end Terminal

/-! ### Displays -/

/-- What is asked of a display: escaping puts nothing into a text but backslashes, an escaped text
is shown with the surrogates of the text, and nothing shows a surrogate that it has not. -/
structure Display.Faithful (display : Display) : Prop where
  escape : ∀ t, ∀ c ∈ display.escape t, c ∈ t ∨ c = .backslash
  surrogates : ∀ t, (display.render (display.escape t)).surrogates = t.surrogates
  render : ∀ t, t.Scalar → (display.render t).Scalar
  renderPlain : ∀ t, t.Scalar → (display.renderPlain t).Scalar

theorem Markup.faithful_display : display.Faithful where
  escape _ _ := mem_or_eq_backslash_of_mem_escape
  surrogates := surrogates_render_escape
  render _ := scalar_render
  renderPlain _ := scalar_renderPlain

def Print.Clean (print : Print) : Prop := ∀ t ∈ print.texts, t.Scalar

namespace Outcome

variable {w : Workplace} {o : Options} {p : Preparation} {r : Report}

theorem scalar_ofInt (i : Int) : (Text.ofInt i).Scalar := by
  cases i with
  | ofNat n => exact Text.scalar_map_ofChar _
  | negSucc n => exact Text.scalar_map_ofChar ('-' :: Nat.toDigits 10 (n + 1))

section Texts

variable (hdisplay : w.display.Faithful)

include hdisplay

theorem clean_line (t : Text) : (line w t).Clean :=
  List.forall_mem_singleton.mpr (hdisplay.renderPlain _ (w.terminal.scalar_sanitize t))

theorem clean_marked (parts : List Text) : (marked w parts).Clean :=
  List.forall_mem_singleton.mpr (hdisplay.render _ (w.terminal.scalar_sanitize _))

theorem clean_problemLines (ps : List Problem) : ∀ print ∈ problemLines w ps, print.Clean :=
  List.forall_mem_map.mpr fun _ _ ↦ clean_marked hdisplay _

theorem scalar_cell_iff {t : Text} : (cell w.display t).Scalar ↔ t.Scalar := by
  rw [cell, ← Text.surrogates_eq_nil_iff, hdisplay.surrogates, Text.surrogates_eq_nil_iff]

theorem yields_treeOf (s : Source) :
    Yields (treeOf w s) fun tree ↦ ∀ print ∈ tree, print.Clean := by
  apply Yields.of_bind
  intro reading
  split
  · apply Yields.ok
    intro print hprint
    rcases List.mem_cons.mp hprint with rfl | hprint
    · exact clean_marked hdisplay _
    · cases List.mem_singleton.mp hprint
      exact clean_line hdisplay _
  · exact Yields.ok (List.forall_mem_nil _)

theorem clean_callTable (r : Report) : (callTable w r).Clean := by
  intro t ht
  obtain ⟨row, hrow, ht⟩ := List.mem_flatten.mp ht
  obtain ⟨entry, -, rfl⟩ := List.mem_map.mp hrow
  rcases List.mem_cons.mp ht with rfl | ht
  · exact (scalar_cell_iff hdisplay).mpr (w.terminal.scalar_sanitize _)
  · rw [List.mem_singleton.mp ht]
    exact scalar_ofInt entry.2

/-- Only names of files can bring surrogates into the table of functions. -/
theorem scalar_or_file_of_mem_functionTable {t : Text} (ht : t ∈ (functionTable w r).texts) :
    t.Scalar ∨ ∃ f ∈ r.functions, t = cell w.display f.site.file := by
  obtain ⟨row, hrow, ht⟩ := List.mem_flatten.mp ht
  obtain ⟨f, hf, rfl⟩ := List.mem_map.mp hrow
  rcases List.mem_cons.mp ht with rfl | ht
  · exact .inl ((scalar_cell_iff hdisplay).mpr (w.terminal.scalar_sanitize _))
  · rcases List.mem_cons.mp ht with rfl | ht
    · exact .inr ⟨f, hf, rfl⟩
    · rw [List.mem_singleton.mp ht]
      exact .inl (scalar_ofInt f.site.line)

theorem clean_or_functionTable_of_mem_tables {print : Print} (h : print ∈ tables w o r) :
    print.Clean ∨ o.showFunctions = true ∧ print = functionTable w r := by
  rcases List.mem_append.mp h with hcalls | hfunctions
  · split at hcalls
    · cases List.mem_singleton.mp hcalls
      exact .inl (clean_callTable hdisplay r)
    · cases hcalls
  · split at hfunctions
    · next hshow => exact .inr ⟨hshow, List.mem_singleton.mp hfunctions⟩
    · cases hfunctions

end Texts

theorem cell_mem_functionTable {f : Sighting} (hf : f ∈ r.functions) :
    cell w.display f.site.file ∈ (functionTable w r).texts :=
  List.mem_flatten.mpr ⟨_, List.mem_map_of_mem hf, by simp⟩

theorem functionTable_mem_tables (hshow : o.showFunctions = true) :
    functionTable w r ∈ tables w o r := by
  rw [tables, if_pos hshow]
  exact List.mem_append_right _ (List.mem_singleton_self _)

/-! ### Whole commands -/

def Reports (w : Workplace) (o : Options) (r : Report) : Prop :=
  ∃ p, Ready w o p ∧ (o.validate = true → problems w p.sources = .ok []) ∧
    Report.ofSources w.grammar p.forbidden o.dedupe p.sources = .ok r

def CleanOrTable (w : Workplace) (o : Options) (print : Print) : Prop :=
  print.Clean ∨ ∃ r, Reports w o r ∧ print ∈ tables w o r

section Sessions

open Session

theorem Reports.tables_subset (h : Reports w o r) : tables w o r ⊆ (check w o).prints := by
  obtain ⟨p, hready, hvalid, hr⟩ := h
  have hgives : Gives (check w o) ([] ++ results w o p r) (verdict r).1 := by
    rw [check_of_ready hready]
    exact (Gives.log _).bind (gives_audit hvalid hr)
  intro print hprint
  apply out_subset_prints
  rw [hgives.out_eq, List.nil_append, results]
  exact List.mem_append_right _ (List.mem_append_right _ hprint)

variable (hdisplay : w.display.Faithful)

include hdisplay

theorem shows_failed (failure : SetupFailure) : Shows (failed w failure) Print.Clean := by
  cases failure with
  | reported e =>
      refine Shows.bind (.print ?_) fun _ _ ↦ .pure _
      exact List.forall_mem_singleton.mpr (clean_marked hdisplay _)
  | fatal fault => exact .quiet _
  | unsettable name => exact .quiet _

theorem shows_halted (found : List Problem) : Shows (halted w found) Print.Clean := by
  refine Shows.bind (.print (clean_problemLines hdisplay found)) fun _ _ ↦ ?_
  refine Shows.bind (.print ?_) fun _ _ ↦ .pure _
  exact List.forall_mem_singleton.mpr (clean_marked hdisplay _)

theorem shows_printTree (s : Source) : Shows (printTree w s) Print.Clean := by
  refine Shows.bind (.quiet _) fun tree htree ↦ .print ?_
  exact yields_treeOf hdisplay s tree (mapError_eq_ok_iff.mp htree)

theorem shows_concluded (hr : Reports w o r) : Shows (concluded w o r) (CleanOrTable w o) := by
  refine Shows.bind (.print ?_) fun _ _ ↦ Shows.bind (.print ?_) fun _ _ ↦
    Shows.bind (.print ?_) fun _ _ ↦ Shows.bind (.print ?_) fun _ _ ↦ .pure _
  · intro print hprint
    obtain ⟨f, -, hprint⟩ := List.mem_flatMap.mp hprint
    exact .inl (clean_problemLines hdisplay _ print hprint)
  · exact List.forall_mem_map.mpr fun v _ ↦ .inl (clean_line hdisplay _)
  · exact fun print hprint ↦ .inr ⟨r, hr, hprint⟩
  · exact List.forall_mem_singleton.mpr (.inl (clean_marked hdisplay _))

theorem shows_audit (hready : Ready w o p) : Shows (audit w o p) (CleanOrTable w o) := by
  have hreport : Shows (report w o p) (CleanOrTable w o) := by
    refine Shows.bind (.log _) fun _ _ ↦ Shows.bind (.mapM fun s _ ↦ ?_) fun _ _ ↦ .pure _
    exact Shows.bind (.quiet _) fun _ _ ↦ Shows.bind (.log _) fun _ _ ↦ .pure _
  have htrees : Shows (p.sources.forM (printTree w)) (CleanOrTable w o) :=
    .forM fun s _ ↦ (shows_printTree hdisplay s).mono fun _ ↦ .inl
  unfold audit
  refine Shows.bind (.quiet _) fun found hfound ↦ ?_
  have hfound : (if o.validate then problems w p.sources else pure []) = .ok found :=
    mapError_eq_ok_iff.mp hfound
  by_cases hempty : found = []
  · subst hempty
    -- nothing keeps the audit from being carried out, so what is concluded is on its report
    have hrest : Shows (do concluded w o (← report w o p)) (CleanOrTable w o) := by
      refine hreport.bind fun r hr ↦ shows_concluded hdisplay ⟨p, hready, fun hvalidate ↦ ?_, ?_⟩
      · rwa [if_pos hvalidate] at hfound
      · rw [result_report] at hr
        exact mapError_eq_ok_iff.mp hr
    cases o.printTree with
    | false => exact hrest
    | true => exact htrees.bind fun _ _ ↦ hrest
  · rw [if_pos (by simpa using hempty)]
    exact (shows_halted hdisplay found).mono fun _ ↦ .inl

/-- Whatever a command comes to, it prints no surrogates outside of the tables. -/
theorem shows_check : Shows (check w o) (CleanOrTable w o) := by
  refine Shows.bind (.log _) fun _ _ ↦ ?_
  split
  · next p hp => exact shows_audit hdisplay (prepare_eq_ok_iff.mp hp)
  · next failure _ => exact (shows_failed hdisplay failure).mono fun _ ↦ .inl

end Sessions

/-- A command prints no surrogates except in names of files, which the table of functions shows as
they are.  So there are none if and only if there is no such table, or the functions in it are from
files whose names have none.  Streams may take less than this, but never anything else. -/
theorem ofCheck_surrogates (w : Workplace) (o : Options) (hdisplay : w.display.Faithful) :
    (∀ print ∈ (check w o).prints, ∀ t ∈ print.texts, t.Scalar ∨ o.showFunctions = true ∧
      ∃ r, Reports w o r ∧ print = functionTable w r ∧ ∃ f ∈ r.functions,
        t = cell w.display f.site.file ∧ t.surrogates = f.site.file.surrogates) ∧
    ((∀ print ∈ (check w o).prints, ∀ t ∈ print.texts, t.Scalar) ↔
      (o.showFunctions = true → ∀ r, Reports w o r → ∀ f ∈ r.functions, f.site.file.Scalar)) ∧
    (ofCheck w o).prints <+: (check w o).prints := by
  have htexts : ∀ print ∈ (check w o).prints, ∀ t ∈ print.texts, t.Scalar ∨
      o.showFunctions = true ∧ ∃ r, Reports w o r ∧ print = functionTable w r ∧
        ∃ f ∈ r.functions, t = cell w.display f.site.file := by
    intro print hprint t ht
    rcases shows_check hdisplay print hprint with hclean | ⟨r, hr, htable⟩
    · exact .inl (hclean t ht)
    · rcases clean_or_functionTable_of_mem_tables hdisplay htable with hclean | ⟨hshow, rfl⟩
      · exact .inl (hclean t ht)
      · exact (scalar_or_file_of_mem_functionTable hdisplay ht).imp_right fun hfile ↦
          ⟨hshow, r, hr, rfl, hfile⟩
  refine ⟨?_, ⟨?_, ?_⟩, Session.isPrefix_prints_play w.streams _⟩
  · intro print hprint t ht
    rcases htexts print hprint t ht with hscalar | ⟨hshow, r, hr, htable, f, hf, rfl⟩
    · exact .inl hscalar
    · exact .inr ⟨hshow, r, hr, htable, f, hf, rfl, hdisplay.surrogates _⟩
  · intro hclean hshow r hr f hf
    have htable := hr.tables_subset (functionTable_mem_tables hshow)
    exact (scalar_cell_iff hdisplay).mp (hclean _ htable _ (cell_mem_functionTable hf))
  · intro hfiles print hprint t ht
    rcases htexts print hprint t ht with hscalar | ⟨hshow, r, hr, -, f, hf, rfl⟩
    · exact hscalar
    · exact (scalar_cell_iff hdisplay).mpr (hfiles hshow r hr f hf)

end Outcome

/-- The tree of `function g(){}`. -/
def Concrete.declaration : Concrete :=
  branch .program none [
    branch .functionDeclaration none [
      token none "function",
      word .identifier (some .name) "g",
      branch .formalParameters (some .parameters) [token none "(", token none ")"],
      branch .statementBlock (some .body) [token none "\x7b", token none "\x7d"]]]

def Outcome.strayFile : Text := strayByte ++ ".js"

def Workplace.stray : Workplace where
  files.files :=
    [([0xFF :: Concrete.ascii ".js"], Concrete.ascii "function g()\x7b\x7d"),
      ([Concrete.ascii "f.txt"], Concrete.ascii "eval")]
  environment := []
  grammar := fun _ ↦ .declaration
  terminal := .ofReported (some "utf-8") none
  streams := .unicode

def Options.showing : Options :=
  { plain with paths := [.parse Outcome.strayFile], showFunctions := true }

namespace Outcome

def strayTable : Print :=
  .table "Declared Functions" ["Function", "File", "Line"] [["g", strayFile, "1"]]

theorem prints_check_showing :
    (check .stray .showing).prints = [strayTable, .line "No forbidden calls in 1 file(s)"] := by
  decide +kernel

theorem not_scalar_strayFile : ¬ strayFile.Scalar := by
  rw [← Text.surrogates_eq_nil_iff]
  decide

theorem ofCheck_surrogates_showing :
    Workplace.stray.display.Faithful ∧ ∃ r, Reports .stray .showing r ∧
      functionTable .stray r ∈ (check .stray .showing).prints ∧
        ∃ f ∈ r.functions, f.site.file.surrogates = strayByte := by
  have htable : strayTable ∈ (check .stray .showing).prints :=
    prints_check_showing ▸ List.mem_cons_self
  refine ⟨Markup.faithful_display, ?_⟩
  obtain ⟨htexts, -⟩ := ofCheck_surrogates .stray .showing Markup.faithful_display
  rcases htexts strayTable htable strayFile (by decide) with
    hscalar | ⟨-, r, hr, hprint, f, hf, -, hsurrogates⟩
  · exact absurd hscalar not_scalar_strayFile
  · exact ⟨r, hr, hprint ▸ htable, f, hf, hsurrogates.symm.trans (by decide)⟩

/-- A surrogate in the name of a file is printed in the table of functions.  A terminal that takes
no surrogates stops the command there. -/
theorem ofCheck_prints_strayByte :
    (∃ print ∈ (check .stray .showing).prints, ∃ t ∈ print.texts, ¬ t.Scalar) ∧
      (ofCheck .stray .showing).result = .error (.unprinted .out strayTable) := by
  refine ⟨⟨strayTable, ?_, strayFile, by decide, not_scalar_strayFile⟩, by decide +kernel⟩
  rw [prints_check_showing]
  exact List.mem_cons_self

end Outcome

end CallAudit
