import CallAudit.Proofs.Preparations
import CallAudit.Proofs.Selection
import Mathlib.Data.List.DropRight

/-!
# Files of names

Names are written into files one in a line, with white space around them, and with blank lines and
remarks between them.  However that is done, the set that is loaded from the files is the set of the
names, and nothing but names is ever loaded.  Line ends are looked at twice, when a file is read and
when its text is cut into lines, and white space three times; the lemmas here say that these views
agree.
-/

namespace CallAudit

namespace Text

def Bare (t : Text) : Prop :=
  (∀ c ∈ t.head?, c.isBlank = false) ∧ ∀ c ∈ t.getLast?, c.isBlank = false

def Unbroken (t : Text) : Prop := ∀ c ∈ t, c.isLineBoundary = false

instance (t : Text) : Decidable t.Bare := inferInstanceAs (Decidable (_ ∧ _))

instance (t : Text) : Decidable t.Unbroken := inferInstanceAs (Decidable (∀ c ∈ t, _))

/-! ### Trimming -/

theorem trim_eq (t : Text) :
    t.trim = (t.dropWhile CodePoint.isBlank).rdropWhile CodePoint.isBlank := rfl

theorem trim_sublist (t : Text) : t.trim.Sublist t := by
  rw [trim_eq]
  exact (List.rdropWhile_prefix _ _).sublist.trans (List.dropWhile_sublist _)

theorem trim_of_blank {t : Text} (h : ∀ c ∈ t, c.isBlank = true) : t.trim = [] := by
  rw [trim_eq, List.dropWhile_eq_nil_iff.mpr h, List.rdropWhile_nil]

theorem not_isBlank_of_head? {t : Text} {c : CodePoint}
    (h : (t.dropWhile CodePoint.isBlank).head? = some c) :
    c.isBlank = false := by
  have hhead := List.head?_dropWhile_not CodePoint.isBlank t
  rwa [h] at hhead

theorem head?_trim (t : Text) : t.trim.head? = (t.dropWhile CodePoint.isBlank).head? := by
  have hhead : ∀ c, (t.dropWhile CodePoint.isBlank).head? = some c → c.isBlank = false :=
    fun c ↦ not_isBlank_of_head?
  rw [trim_eq]
  generalize t.dropWhile CodePoint.isBlank = rest at hhead
  cases rest with
  | nil => rfl
  | cons c rest =>
      -- the first code point is not white space, so that something is left at the beginning
      have hne : (c :: rest).rdropWhile CodePoint.isBlank ≠ [] := by
        rw [ne_eq, List.rdropWhile_eq_nil_iff]
        intro hall
        exact absurd (hall c List.mem_cons_self) (Bool.eq_false_iff.mp (hhead c rfl))
      obtain ⟨tail, htail⟩ := List.rdropWhile_prefix CodePoint.isBlank (c :: rest)
      have hsame := congrArg List.head? htail
      rwa [List.head?_append_of_ne_nil _ hne] at hsame

theorem head?_trim_pad {padding rest : Text} {c : CodePoint} (h : ∀ d ∈ padding, d.isBlank = true)
    (hc : c.isBlank = false) : (padding ++ c :: rest).trim.head? = some c := by
  rw [head?_trim, List.dropWhile_append_of_pos h, List.dropWhile_cons_of_neg (by rw [hc]; decide),
    List.head?_cons]

theorem bare_trim (t : Text) : t.trim.Bare := by
  constructor
  · intro c hc
    rw [head?_trim] at hc
    exact not_isBlank_of_head? hc
  · intro c hc
    obtain ⟨hne, rfl⟩ := List.mem_getLast?_eq_getLast hc
    exact Bool.eq_false_iff.mpr (List.rdropWhile_last_not _ _ hne)

/-- White space around a name is trimmed, and no more. -/
theorem Bare.trim_pad {before name after : Text} (h : name.Bare)
    (hbefore : ∀ c ∈ before, c.isBlank = true) (hafter : ∀ c ∈ after, c.isBlank = true) :
    (before ++ name ++ after).trim = name := by
  have hend : (name ++ after).rdropWhile CodePoint.isBlank = name.rdropWhile CodePoint.isBlank := by
    rw [List.rdropWhile, List.reverse_append,
      List.dropWhile_append_of_pos fun c hc ↦ hafter c (List.mem_reverse.mp hc)]
    rfl
  have hname : name.rdropWhile CodePoint.isBlank = name := by
    rw [List.rdropWhile_eq_self_iff]
    intro hne
    rw [h.2 _ (List.getLast_mem_getLast? hne)]
    decide
  rw [trim_eq, List.append_assoc, List.dropWhile_append_of_pos hbefore]
  cases name with
  | nil => rw [List.nil_append, List.dropWhile_eq_nil_iff.mpr hafter, List.rdropWhile_nil]
  | cons c name =>
      have hc : c.isBlank = false := h.1 c rfl
      rw [List.cons_append, List.dropWhile_cons_of_neg (by rw [hc]; decide), ← List.cons_append,
        hend, hname]

theorem Bare.trim_eq_self {t : Text} (h : t.Bare) : t.trim = t := by
  have hpad := h.trim_pad (List.forall_mem_nil _) (List.forall_mem_nil _)
  rwa [List.nil_append, List.append_nil] at hpad

/-! ### Lines -/

theorem linesFrom_cons {c : CodePoint} (hc : c.isLineBoundary = false) (line rest : Text) :
    linesFrom line (c :: rest) = linesFrom (c :: line) rest := by
  rw [linesFrom.eq_def]
  simp [hc]

theorem linesFrom_boundary {c : CodePoint} {rest : Text} (hc : c.isLineBoundary = true)
    (hrest : c = .carriageReturn → rest.head? ≠ some .lineFeed) (line : Text) :
    linesFrom line (c :: rest) = line.reverse :: lines rest := by
  rw [linesFrom.eq_def]
  simp only [if_pos hc]
  cases rest with
  | nil => rfl
  | cons d rest =>
      have hnot : ¬(c = .carriageReturn ∧ d = .lineFeed) := fun h ↦ hrest h.1 (congrArg some h.2)
      simp only [if_neg hnot]
      rfl

theorem linesFrom_returnFeed (line rest : Text) :
    linesFrom line (.carriageReturn :: .lineFeed :: rest) = line.reverse :: lines rest := by
  rw [linesFrom, if_pos (by decide), if_pos ⟨rfl, rfl⟩]
  rfl

theorem linesFrom_feed (line rest : Text) :
    linesFrom line (.lineFeed :: rest) = line.reverse :: lines rest :=
  linesFrom_boundary (by decide) (fun h ↦ absurd h (by decide)) line

theorem Unbroken.linesFrom_append {content : Text} (h : content.Unbroken) (line rest : Text) :
    linesFrom line (content ++ rest) = linesFrom (content.reverse ++ line) rest := by
  induction content generalizing line with
  | nil => rfl
  | cons c content ih =>
      obtain ⟨hc, hcontent⟩ := List.forall_mem_cons.mp h
      rw [List.cons_append, linesFrom_cons hc, ih hcontent, List.reverse_cons, List.append_assoc]
      rfl

/-- Making line ends uniform leaves the lines as they are. -/
theorem linesFrom_unifyNewlines (line t : Text) :
    linesFrom line t.unifyNewlines = linesFrom line t := by
  fun_induction unifyNewlines t generalizing line with
  | case1 => rfl
  | case2 =>
      rw [linesFrom_feed, linesFrom_boundary (by decide) (by simp)]
  | case3 => rfl
  | case4 rest ih =>
      rw [linesFrom_feed, linesFrom_returnFeed, lines, ih]
      rfl
  | case5 d rest hd ih =>
      have hrest :
          CodePoint.carriageReturn = .carriageReturn → (d :: rest).head? ≠ some .lineFeed :=
        fun _ h ↦ hd (Option.some.inj h)
      rw [linesFrom_feed, linesFrom_boundary (by decide) hrest, lines, ih]
      rfl
  | case6 c d rest hc ih =>
      by_cases hboundary : c.isLineBoundary = true
      · have hsingle : ∀ rest : Text, c = .carriageReturn → rest.head? ≠ some .lineFeed :=
          fun _ h ↦ absurd h hc
        rw [linesFrom_boundary hboundary (hsingle _), linesFrom_boundary hboundary (hsingle _),
          lines, ih]
        rfl
      · rw [Bool.not_eq_true] at hboundary
        rw [linesFrom_cons hboundary, linesFrom_cons hboundary, ih]

theorem unbroken_of_mem_linesFrom {line t : Text} (hline : line.Unbroken) :
    ∀ l ∈ linesFrom line t, l.Unbroken := by
  have hreverse : ∀ {line : Text}, line.Unbroken → Unbroken line.reverse :=
    fun h c hc ↦ h c (List.mem_reverse.mp hc)
  have hnil : Unbroken [] := List.forall_mem_nil _
  fun_induction linesFrom line t with
  | case1 => exact List.forall_mem_nil _
  | case2 => exact List.forall_mem_singleton.mpr (hreverse hline)
  | case3 line c hc d rest h ih | case4 line c hc d rest h ih =>
      exact List.forall_mem_cons.mpr ⟨hreverse hline, ih hnil⟩
  | case5 => exact List.forall_mem_singleton.mpr (hreverse hline)
  | case6 line c rest hc ih => exact ih (List.forall_mem_cons.mpr ⟨Bool.eq_false_iff.mpr hc, hline⟩)

end Text

/-- The file has the text in the charset, before its line ends are made uniform. -/
def FileSystem.Holds (fs : FileSystem) (codecs : Codecs) (charset : Text) (path : Path)
    (t : Text) : Prop :=
  charset.Scalar ∧ (∀ c ∈ charset, c.value ≠ 0) ∧ ∃ codec bytes, codecs charset = .ok codec ∧
    fs.readBytes path = .ok bytes ∧ codec bytes = .ok t

theorem FileSystem.Holds.readText_eq {fs : FileSystem} {codecs : Codecs} {charset : Text}
    {path : Path} {t : Text} (h : fs.Holds codecs charset path t) :
    fs.readText codecs charset path = .ok t.unifyNewlines := by
  obtain ⟨hscalar, hnull, codec, bytes, hcodec, hbytes, ht⟩ := h
  have hany : (charset.any fun c ↦ c.value == 0) = false := by simpa using hnull
  simp [readText, Text.hasSurrogate_eq_false_iff.mpr hscalar, hany, hbytes, hcodec, ht, Except.map]

namespace Forbidden

structure IsName (name : Text) : Prop where
  ne_nil : name ≠ []
  bare : name.Bare
  unbroken : name.Unbroken
  no_remark : name.head? ≠ some (CodePoint.ofChar '#')

/-! ### Writing names into files -/

abbrev Padding := { t : Text // ∀ c ∈ t, c.isBlank = true ∧ c.isLineBoundary = false }

inductive Line where
  | name (before : Padding) (entry : { t : Text // IsName t }) (after : Padding)
  | blank (padding : Padding)
  | remark (padding : Padding) (words : { t : Text // t.Unbroken })

inductive Terminator where
  | single (c : CodePoint) (h : c.isLineBoundary = true)
  | returnFeed

structure Listing where
  lines : List (Line × Terminator)
  last : Line

def Line.text : Line → Text
  | name before entry after => before.val ++ entry.val ++ after.val
  | blank padding => padding.val
  | remark padding words => padding.val ++ CodePoint.ofChar '#' :: words.val

def Line.names : Line → List Text
  | name _ entry _ => [entry.val]
  | blank _ | remark _ _ => []

def Terminator.text : Terminator → Text
  | single c _ => [c]
  | returnFeed => [.carriageReturn, .lineFeed]

def Listing.text (l : Listing) : Text :=
  (l.lines.flatMap fun line ↦ line.1.text ++ line.2.text) ++ l.last.text

def Listing.names (l : Listing) : List Text :=
  (l.lines.flatMap fun line ↦ line.1.names) ++ l.last.names

/-! ### Names of lines -/

def lineNames (line : Text) : List Text :=
  [line.trim].filter fun name ↦ !name.isEmpty && name.head? != some (CodePoint.ofChar '#')

theorem listed_eq (t : Text) : listed t = t.lines.flatMap lineNames := by
  have hfilter : ∀ lines : List Text, ((lines.map Text.trim).filter fun name ↦
      !name.isEmpty && name.head? != some (CodePoint.ofChar '#')) = lines.flatMap lineNames := by
    intro lines
    induction lines with
    | nil => rfl
    | cons line lines ih =>
        rw [List.map_cons, List.flatMap_cons, ← ih, lineNames, ← List.filter_append,
          List.singleton_append]
  exact hfilter t.lines

theorem lineNames_nil : lineNames [] = [] := rfl

theorem lineNames_of_isName {line : Text} (h : IsName line.trim) :
    lineNames line = [line.trim] := by
  rw [lineNames, List.filter_cons_of_pos (by simp [h.ne_nil, h.no_remark]), List.filter_nil]

theorem Line.unbroken_text (l : Line) : l.text.Unbroken := by
  have hpadding : ∀ padding : Padding, padding.val.Unbroken :=
    fun padding c hc ↦ (padding.property c hc).2
  cases l with
  | name before entry after =>
      refine List.forall_mem_append.mpr ⟨List.forall_mem_append.mpr ⟨hpadding before, ?_⟩,
        hpadding after⟩
      exact entry.property.unbroken
  | blank padding => exact hpadding padding
  | remark padding words =>
      refine List.forall_mem_append.mpr ⟨hpadding padding, ?_⟩
      exact List.forall_mem_cons.mpr ⟨by decide, words.property⟩

/-- A line lists its name, however it is padded; blank lines and remarks list none. -/
theorem Line.lineNames_text (l : Line) : lineNames l.text = l.names := by
  have hpadding : ∀ padding : Padding, ∀ c ∈ padding.val, c.isBlank = true := by
    intro padding c hc
    exact (padding.property c hc).1
  cases l with
  | name before entry after =>
      have htrim : (before.val ++ entry.val ++ after.val).trim = entry.val :=
        entry.property.bare.trim_pad (hpadding before) (hpadding after)
      rw [Line.text, lineNames_of_isName (by rw [htrim]; exact entry.property), htrim]
      rfl
  | blank padding =>
      rw [Line.text, lineNames, Text.trim_of_blank (hpadding padding)]
      rfl
  | remark padding words =>
      have hhead : (padding.val ++ CodePoint.ofChar '#' :: words.val).trim.head? =
          some (CodePoint.ofChar '#') :=
        Text.head?_trim_pad (hpadding padding) (by decide)
      rw [Line.text, lineNames, List.filter_cons_of_neg (by simp [hhead])]
      rfl

theorem listed_of_unbroken {content : Text} (h : content.Unbroken) :
    listed content = lineNames content := by
  have hlines := h.linesFrom_append [] []
  rw [List.append_nil, List.append_nil] at hlines
  rw [listed_eq, Text.lines, hlines]
  cases content with
  | nil => rfl
  | cons c content => simp [Text.linesFrom]

/-- A line feed that follows a line ended by a carriage return is read as part of the line end.  The
blank line that it would have ended has no names, so that this makes no difference. -/
theorem listed_terminated {content : Text} (h : content.Unbroken) (terminator : Terminator)
    (rest : Text) :
    listed (content ++ terminator.text ++ rest) = lineNames content ++ listed rest := by
  rw [List.append_assoc, listed_eq, listed_eq, Text.lines, h.linesFrom_append, List.append_nil]
  cases terminator with
  | returnFeed =>
      change (Text.linesFrom content.reverse (.carriageReturn :: .lineFeed :: rest)).flatMap
          lineNames = _
      rw [Text.linesFrom_returnFeed, List.flatMap_cons, List.reverse_reverse]
  | single c hc =>
      change (Text.linesFrom content.reverse (c :: rest)).flatMap lineNames = _
      by_cases hfeed : c = .carriageReturn ∧ rest.head? = some .lineFeed
      · obtain ⟨rfl, hhead⟩ := hfeed
        obtain ⟨rest, rfl⟩ := List.head?_eq_some_iff.mp hhead
        have hblank : Text.lines (.lineFeed :: rest) = [] :: Text.lines rest :=
          Text.linesFrom_feed [] rest
        rw [Text.linesFrom_returnFeed, hblank, List.flatMap_cons, List.flatMap_cons,
          List.reverse_reverse, lineNames_nil, List.nil_append]
      · have hrest : c = .carriageReturn → rest.head? ≠ some .lineFeed :=
          fun hreturn hhead ↦ hfeed ⟨hreturn, hhead⟩
        rw [Text.linesFrom_boundary hc hrest, List.flatMap_cons, List.reverse_reverse]

/-- A file lists the names of its lines in their order, whatever ends the lines. -/
theorem Listing.listed_text (l : Listing) : listed l.text = l.names := by
  obtain ⟨lines, last⟩ := l
  unfold text names
  dsimp only
  induction lines with
  | nil =>
      rw [List.flatMap_nil, List.flatMap_nil, List.nil_append,
        listed_of_unbroken last.unbroken_text,
      last.lineNames_text, List.nil_append]
  | cons line lines ih =>
      rw [List.flatMap_cons, List.flatMap_cons, List.append_assoc,
        listed_terminated line.1.unbroken_text, line.1.lineNames_text, ih, List.append_assoc]

theorem listed_unifyNewlines (t : Text) : listed t.unifyNewlines = listed t := by
  rw [listed_eq, listed_eq, Text.lines, Text.linesFrom_unifyNewlines]
  rfl

/-! ### Names that are loaded -/

/-- Nothing is listed that could not have been written as a name. -/
theorem isName_of_mem_listed {t name : Text} (h : name ∈ listed t) : IsName name := by
  obtain ⟨hmem, hkept⟩ := List.mem_filter.mp h
  obtain ⟨line, hline, rfl⟩ := List.mem_map.mp hmem
  rw [Bool.and_eq_true, Bool.not_eq_true', List.isEmpty_eq_false_iff, bne_iff_ne] at hkept
  refine ⟨hkept.1, Text.bare_trim line, ?_, hkept.2⟩
  intro c hc
  exact Text.unbroken_of_mem_linesFrom (List.forall_mem_nil _) line hline c
    ((Text.trim_sublist line).subset hc)

theorem names_ofTexts (texts : List Text) :
    (ofTexts texts).names = (texts.flatMap listed).eraseDups := by
  have hname : ∀ name ∈ texts.flatMap listed, IsName name := by
    intro name hmem
    obtain ⟨t, -, ht⟩ := List.mem_flatMap.mp hmem
    exact isName_of_mem_listed ht
  have htrim : (texts.flatMap listed).map Text.trim = texts.flatMap listed :=
    (List.map_congr_left fun name hmem ↦ (hname name hmem).bare.trim_eq_self).trans (List.map_id _)
  have hkept : ∀ name ∈ texts.flatMap listed, (!name.isEmpty) = true := by
    intro name hmem
    simp [(hname name hmem).ne_nil]
  unfold ofTexts ofNames
  rw [htrim, List.filter_eq_self.mpr hkept]

/-- Names that are written into files, each in a line of its own, are loaded from the files: all of
them, each once, and nothing else.  Whatever files are loaded, what comes out are names that could
have been written so. -/
theorem load_listings (fs : FileSystem) (codecs : Codecs) (charset : Text) :
    (∀ (names : List Text) (files : List (Path × Listing)),
      (∀ file ∈ files, fs.Holds codecs charset file.1 file.2.text) →
      (∀ name, name ∈ names ↔ ∃ file ∈ files, name ∈ file.2.names) →
        ∃ forbidden, (load fs codecs charset (files.map Prod.fst)).2 = .ok forbidden ∧
          forbidden.names.Nodup ∧ ∀ name, name ∈ forbidden.names ↔ name ∈ names) ∧
      ∀ paths forbidden, (load fs codecs charset paths).2 = .ok forbidden →
        ∀ name ∈ forbidden.names, IsName name := by
  constructor
  · intro names files hfiles hnames
    have hread : List.Forall₂ (fun path t ↦ fs.readText codecs charset path = .ok t)
        (files.map Prod.fst)
        (files.map fun file ↦ file.2.text.unifyNewlines) := by
      rw [List.forall₂_map_left_iff, List.forall₂_map_right_iff, List.forall₂_same]
      exact fun file hfile ↦ (hfiles file hfile).readText_eq
    refine ⟨_, Outcome.names_eq_ok_iff.mpr ⟨_, hread, rfl⟩, ?_, ?_⟩
    · rw [names_ofTexts]
      exact nodup_eraseDups _
    · intro name
      rw [names_ofTexts, List.mem_eraseDups, List.flatMap_map, List.mem_flatMap, hnames]
      simp only [listed_unifyNewlines, Listing.listed_text]
  · intro paths forbidden hload name hname
    obtain ⟨texts, -, rfl⟩ := Outcome.names_eq_ok_iff.mp hload
    rw [names_ofTexts, List.mem_eraseDups] at hname
    obtain ⟨t, -, ht⟩ := List.mem_flatMap.mp hname
    exact isName_of_mem_listed ht

/-- Two names with a blank line and a remark between them.  The blank line is ended by a line feed
directly after the carriage return of the first line, and the remark by `U+0085`. -/
def twoNames : Listing where
  lines :=
    [(.name ⟨"  ", by decide⟩ ⟨"eval", by constructor <;> decide⟩ ⟨"\t", by decide⟩,
      .single .carriageReturn (by decide)),
      (.blank ⟨[], by decide⟩, .single .lineFeed (by decide)),
      (.remark ⟨" ", by decide⟩ ⟨" none", by decide⟩, .single ⟨0x85, by decide⟩ (by decide))]
  last :=
    .name ⟨[], by decide⟩ ⟨"set timer", by constructor <;> decide⟩ ⟨[⟨0xA0, by decide⟩], by decide⟩

def twoNamesFile : FileSystem where
  files := [([FileName.ofText "f"], twoNames.text.map fun c ↦ UInt8.ofNat c.value)]

theorem load_listings_twoNames :
    twoNamesFile.Holds Charset.codecs "latin-1" (.parse "f") twoNames.text ∧
      ∃ forbidden,
        (load twoNamesFile Charset.codecs "latin-1" [.parse "f", .parse "/f"]).2 = .ok forbidden ∧
        (∀ name, name ∈ forbidden.names ↔ name ∈ (["set timer", "eval"] : List Text)) ∧
        ∀ name ∈ forbidden.names, IsName name := by
  have hcharset : Text.Scalar "latin-1" := Text.hasSurrogate_eq_false_iff.mp (by decide)
  have hholds : twoNamesFile.Holds Charset.codecs "latin-1" (.parse "f") twoNames.text :=
    ⟨hcharset, by decide, Charset.latin1.decode, _, rfl, rfl, rfl⟩
  have habsolute : twoNamesFile.Holds Charset.codecs "latin-1" (.parse "/f") twoNames.text :=
    ⟨hcharset, by decide, Charset.latin1.decode, _, rfl, rfl, rfl⟩
  have hlisted : twoNames.names = ["eval", "set timer"] := rfl
  refine ⟨hholds, ?_⟩
  obtain ⟨hloaded, hnames⟩ := load_listings twoNamesFile Charset.codecs "latin-1"
  obtain ⟨forbidden, hload, -, hmem⟩ := hloaded ["set timer", "eval"]
    [(.parse "f", twoNames), (.parse "/f", twoNames)] (by simp [hholds, habsolute])
    (by simp [hlisted, or_comm])
  exact ⟨forbidden, hload, hmem, hnames _ forbidden hload⟩

end Forbidden

end CallAudit
