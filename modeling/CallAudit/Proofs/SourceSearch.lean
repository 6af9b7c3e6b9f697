import CallAudit.Proofs.FileNames
import CallAudit.Proofs.Selection
import CallAudit.Proofs.SourceExtensions
import CallAudit.Setup.Load
import Mathlib.Data.List.Lex

/-!
# Search for sources

A directory stands for the JavaScript files at any depth below it.  The search leaves out what lies
in directories of foreign or generated code, as far as these are below the directory itself, and
puts the files in the order of their paths, which are compared part by part.  Directories that
cannot be listed are passed over, but whatever is listed is looked up, and a search ends where that
is refused.
-/

namespace CallAudit

/-! ### The order of paths -/

namespace Text

def codes (t : Text) : List Nat := t.map CodePoint.value

theorem codes_injective : Function.Injective codes :=
  List.map_injective_iff.mpr fun _ _ ↦ CodePoint.ext

theorem precedes_iff {s t : Text} : s.precedes t = true ↔ s.codes < t.codes ∨ s = t := by
  fun_induction precedes s t with
  | case1 t => cases t <;> simp [codes]
  | case2 c s => simp [codes]
  | case3 c s d t ih =>
      have hvalue : c.value = d.value ↔ c = d := ⟨CodePoint.ext, congrArg _⟩
      have hcons : codes (c :: s) < codes (d :: t) ↔
          c.value < d.value ∨ c = d ∧ codes s < codes t := by
        rw [← hvalue]
        exact List.cons_lt_cons_iff
      rw [Bool.or_eq_true, Bool.and_eq_true, decide_eq_true_eq, beq_iff_eq, ih, hcons,
        List.cons.injEq, and_or_left, or_assoc]

end Text

namespace Path

def codes (p : Path) : List (List Nat) := p.parts.map Text.codes

/-- The order of the search is the lexicographic order of code points. -/
theorem partsPrecede_iff {as bs : List Text} :
    partsPrecede as bs = true ↔ as.map Text.codes < bs.map Text.codes ∨ as = bs := by
  fun_induction partsPrecede as bs with
  | case1 bs => cases bs <;> simp
  | case2 a as => simp
  | case3 as a bs ih => simp [ih]
  | case4 a as b bs hne =>
      have hcodes : a.codes ≠ b.codes := fun heq ↦ hne (Text.codes_injective heq)
      simp [Text.precedes_iff, List.cons_lt_cons_iff, hne, hcodes]

theorem partsPrecede_trans (as bs cs : List Text) (hab : partsPrecede as bs = true)
    (hbc : partsPrecede bs cs = true) : partsPrecede as cs = true := by
  rw [partsPrecede_iff] at *
  rcases hab with hab | rfl
  · rcases hbc with hbc | rfl
    · exact .inl (lt_trans hab hbc)
    · exact .inl hab
  · exact hbc

theorem partsPrecede_total (as bs : List Text) :
    (partsPrecede as bs || partsPrecede bs as) = true := by
  rw [Bool.or_eq_true, partsPrecede_iff, partsPrecede_iff]
  rcases lt_trichotomy (as.map Text.codes) (bs.map Text.codes) with hlt | heq | hgt
  · exact .inl (.inl hlt)
  · exact .inl (.inr (List.map_injective_iff.mpr Text.codes_injective heq))
  · exact .inr (.inl hgt)

theorem codes_below (p : Path) (parts : List Text) :
    (p.below parts).codes = p.codes ++ parts.map Text.codes :=
  List.map_append

/-- Different sequences of parts, sorted, are strictly increasing. -/
theorem pairwise_mergeSort {candidates : List (List Text)} (h : candidates.Nodup) (p : Path) :
    (candidates.mergeSort partsPrecede).Pairwise fun as bs ↦
      (p.below as).codes < (p.below bs).codes := by
  have hsorted := List.pairwise_mergeSort partsPrecede_trans partsPrecede_total candidates
  have hnodup : (candidates.mergeSort partsPrecede).Nodup :=
    (List.mergeSort_perm candidates _).nodup_iff.mpr h
  refine (hsorted.and hnodup).imp ?_
  rintro as bs ⟨hle, hne⟩
  rw [codes_below, codes_below]
  exact List.append_left_lt ((partsPrecede_iff.mp hle).resolve_right hne)

end Path

/-! ### Trees of directories -/

structure FileName.Proper (name : FileName) : Prop where
  no_null : 0 ∉ name
  ne_parent : name ≠ ofText ".."
  short : name.length ≤ FileSystem.nameLimit

namespace FileSystem

/-- The files and directories form a tree: nothing lies below a file, and everything has a proper
name. -/
structure IsTree (fs : FileSystem) : Prop where
  files : ∀ f ∈ fs.files, ∀ g ∈ fs.files, f.1 <+: g.1 → f.1 = g.1
  directories : ∀ f ∈ fs.files, ∀ d ∈ fs.workingDirectory :: fs.directories, ¬ f.1 <+: d
  proper : ∀ names ∈ fs.stored, ∀ name ∈ names, FileName.Proper name

def Clear (fs : FileSystem) (names : List FileName) : Prop := ∀ f ∈ fs.files, ¬ f.1 <+: names

variable {fs : FileSystem} {names directory whole : List FileName}

theorem mem_stored_iff :
    names ∈ fs.stored ↔
      names ∈ fs.workingDirectory :: fs.directories ∨ ∃ content, (names, content) ∈ fs.files := by
  rw [stored, List.mem_append, List.mem_map]
  constructor
  · rintro (h | ⟨⟨_, content⟩, h, rfl⟩)
    · exact .inl h
    · exact .inr ⟨content, h⟩
  · rintro (h | ⟨content, h⟩)
    · exact .inl h
    · exact .inr ⟨_, h, rfl⟩

/-- Only at its end can the way to something lead through a file. -/
theorem IsTree.clear_of_begins (h : fs.IsTree) (hwhole : whole ∈ fs.stored)
    (hbegins : names <+: whole) (hne : names ≠ whole) : fs.Clear names := by
  intro f hf hfile
  rcases mem_stored_iff.mp hwhole with hwhole | ⟨content, hwhole⟩
  · exact h.directories f hf whole hwhole (hfile.trans hbegins)
  · have hsame := h.files f hf _ hwhole (hfile.trans hbegins)
    exact hne (List.Sublist.antisymm hbegins.sublist (hsame ▸ hfile).sublist)

/-- Whatever the way to something leads through is there, as a file or as a directory. -/
theorem entry?_of_begins (hwhole : whole ∈ fs.stored) (hbegins : names <+: whole) :
    (∃ content, (names, content) ∈ fs.files ∧ fs.entry? names = some (.file names content)) ∨
      (∀ content, (names, content) ∉ fs.files) ∧ fs.entry? names = some (.directory names) := by
  unfold entry?
  split
  · next content hlookup =>
    obtain ⟨before, after, hfiles, -⟩ := List.lookup_eq_some_iff.mp hlookup
    exact .inl ⟨content, hfiles ▸ List.mem_append_right _ List.mem_cons_self, rfl⟩
  · next hlookup =>
    have hnone : ∀ content, (names, content) ∉ fs.files := by
      intro content hmem
      exact bne_iff_ne.mp (List.lookup_eq_none_iff.mp hlookup _ hmem) rfl
    have hdirectory : fs.isDirectory names = true := by
      rw [isDirectory, Bool.or_eq_true, Bool.or_eq_true, List.any_eq_true, List.any_eq_true]
      rcases mem_stored_iff.mp hwhole with hwhole | ⟨content, hwhole⟩
      · rcases List.mem_cons.mp hwhole with rfl | hwhole
        · exact .inl (.inl (List.isPrefixOf_iff_prefix.mpr hbegins))
        · exact .inl (.inr ⟨whole, hwhole, List.isPrefixOf_iff_prefix.mpr hbegins⟩)
      · refine .inr ⟨_, hwhole, ?_⟩
        rw [Bool.and_eq_true, List.isPrefixOf_iff_prefix, bne_iff_ne]
        refine ⟨hbegins, ?_⟩
        rintro rfl
        exact hnone content hwhole
    exact .inr ⟨hnone, if_pos hdirectory⟩

/-! ### Following names -/

/-- A proper name is neither a dot nor two, so that it leads to what is stored under it. -/
theorem enter_text {name : FileName} (hproper : name.Proper) :
    fs.enter (.directory directory) name.text =
      if directory ∈ fs.unsearchable then .error .denied
      else (fs.entry? (directory ++ [name])).elim (.error .notFound) .ok := by
  have hparent : name.text ≠ ("..": Text) := by
    intro heq
    exact hproper.ne_parent (heq ▸ (FileName.ofText_text name).symm)
  rw [enter, if_neg hparent, FileName.ofText_text, if_neg (Nat.not_lt.mpr hproper.short)]

/-- Names lead from a directory to one below it, if every directory before it can be searched. -/
theorem IsTree.foldlM_enter (h : fs.IsTree) (hwhole : whole ∈ fs.stored)
    (hbegins : directory ++ names <+: whole) (hne : directory ++ names ≠ whole)
    (hsearch : ∀ n < names.length, directory ++ names.take n ∉ fs.unsearchable) :
    (names.map FileName.text).foldlM fs.enter (.directory directory) =
      .ok (.directory (directory ++ names)) := by
  induction names generalizing directory with
  | nil => rw [List.append_nil]; rfl
  | cons name names ih =>
      have hassoc : directory ++ name :: names = directory ++ [name] ++ names := by simp
      rw [hassoc] at hbegins hne ⊢
      have hfirst : directory ∉ fs.unsearchable := by
        simpa using hsearch 0 (Nat.zero_lt_succ _)
      have hname : name.Proper :=
        h.proper whole hwhole name (hbegins.subset (by simp))
      have hentry : fs.entry? (directory ++ [name]) = some (.directory (directory ++ [name])) := by
        have hbefore : directory ++ [name] <+: whole := (List.prefix_append _ names).trans hbegins
        rcases entry?_of_begins hwhole hbefore with ⟨content, hfile, -⟩ | ⟨-, hentry⟩
        · exact absurd (List.prefix_append _ names) (h.clear_of_begins hwhole hbegins hne _ hfile)
        · exact hentry
      rw [List.map_cons, List.foldlM_cons, enter_text hname, if_neg hfirst, hentry]
      refine ih hbegins hne fun n hn ↦ ?_
      simpa using hsearch (n + 1) (Nat.succ_lt_succ hn)

variable {p : Path} {here : Found}

theorem find_of_hasBytes (h : ∀ part ∈ p.parts, part.hasBytes = true) :
    fs.find p =
      if pathLimit < (FileName.ofText p.render).length then .error .tooLong
      else fs.start p >>= p.parts.foldlM fs.enter := by
  have hbytes : ∀ part ∈ p.parts, ∀ c ∈ part, c.isUnencodable = false ∧ c.value ≠ 0 := by
    intro part hpart c hc
    simpa using List.all_eq_true.mp (h part hpart) c hc
  unfold find
  rw [if_neg, if_neg]
  · rw [List.any_eq_true]
    rintro ⟨part, hpart, hnull⟩
    obtain ⟨c, hc, hnull⟩ := List.any_eq_true.mp hnull
    exact (hbytes part hpart c hc).2 (beq_iff_eq.mp hnull)
  · rw [List.any_eq_true]
    rintro ⟨part, hpart, hunencodable⟩
    obtain ⟨c, hc, hunencodable⟩ := List.any_eq_true.mp hunencodable
    exact Bool.false_ne_true ((hbytes part hpart c hc).1.symm.trans hunencodable)

theorem hasBytes_of_find (h : fs.find p = .ok here) : ∀ part ∈ p.parts, part.hasBytes = true := by
  unfold find at h
  split at h
  · cases h
  · next hunencodable =>
    split at h
    · cases h
    · next hnull =>
      intro part hpart
      refine List.all_eq_true.mpr fun c hc ↦ ?_
      simp only [List.any_eq_true, not_exists, not_and, Bool.not_eq_true] at hunencodable hnull
      simpa [hunencodable part hpart c hc] using hnull part hpart c hc

/-- What a longer path leads to is reached from where its beginning leads. -/
theorem find_below (h : fs.find p = .ok here) {parts : List Text}
    (hparts : ∀ part ∈ parts, part.hasBytes = true) :
    fs.find (p.below parts) =
      if pathLimit < (FileName.ofText (p.below parts).render).length then .error .tooLong
      else parts.foldlM fs.enter here := by
  have hbytes := hasBytes_of_find h
  rw [find_of_hasBytes hbytes] at h
  rw [find_of_hasBytes (List.forall_mem_append.mpr ⟨hbytes, hparts⟩)]
  congr 1
  split at h
  · cases h
  · obtain ⟨first, hstart, hwalk⟩ := bind_eq_ok_iff.mp h
    have hbegin : fs.start (p.below parts) = .ok first := hstart
    rw [hbegin, ok_bind, Path.below, List.foldlM_append, hwalk, ok_bind]

/-! ### What a search comes upon -/

/-- A search of a directory comes upon what has these names from the directory on: the directories
on the way can be listed and, except for the last, searched. -/
structure Met (fs : FileSystem) (directory names : List FileName) : Prop where
  ne_nil : names ≠ []
  stored : ∃ whole ∈ fs.stored, directory ++ names <+: whole
  readable : ∀ n < names.length, directory ++ names.take n ∉ fs.unreadable
  searchable : ∀ n, n + 1 < names.length → directory ++ names.take n ∉ fs.unsearchable

/-- Everything on the way to something stored is there. -/
theorem mem_below_iff :
    names ∈ fs.below directory ↔
      names ≠ [] ∧ ∃ whole ∈ fs.stored, directory ++ names <+: whole := by
  simp only [below, List.mem_eraseDups, List.mem_flatMap, List.mem_filterMap, List.mem_map,
    List.mem_range]
  constructor
  · rintro ⟨rest, ⟨whole, hwhole, hrest⟩, n, hn, rfl⟩
    split at hrest
    · next hbegins =>
      obtain ⟨_, rfl⟩ := List.isPrefixOf_iff_prefix.mp hbegins
      rw [List.drop_left, Option.some.injEq] at hrest
      subst hrest
      refine ⟨?_, _, hwhole, (List.prefix_append_right_inj _).mpr (List.take_prefix _ _)⟩
      intro hnil
      rcases List.take_eq_nil_iff.mp hnil with hzero | hrest
      · cases hzero
      · rw [hrest] at hn
        exact Nat.not_lt_zero n hn
    · cases hrest
  · rintro ⟨hne, whole, hwhole, rest, rfl⟩
    have hlength := List.length_pos_iff.mpr hne
    refine ⟨names ++ rest, ⟨_, hwhole, ?_⟩, names.length - 1, ?_, ?_⟩
    · rw [List.append_assoc, if_pos (List.isPrefixOf_iff_prefix.mpr (List.prefix_append _ _)),
        List.drop_left]
    · rw [List.length_append]
      omega
    · rw [Nat.sub_add_cancel hlength, List.take_left]

theorem isListed_iff :
    fs.isListed directory names = true ↔
      (∀ n < names.length, directory ++ names.take n ∉ fs.unreadable) ∧
        ∀ n, n + 1 < names.length → directory ++ names.take n ∉ fs.unsearchable := by
  simp only [isListed, List.all_eq_true, List.mem_range, Bool.and_eq_true, Bool.or_eq_true,
    decide_eq_true_eq, beq_iff_eq]
  constructor
  · intro h
    refine ⟨fun n hn ↦ (h n hn).1, fun n hn ↦ ?_⟩
    exact (h n (Nat.lt_of_succ_lt hn)).2.resolve_left (Nat.ne_of_lt hn)
  · rintro ⟨hreadable, hsearchable⟩ n hn
    refine ⟨hreadable n hn, ?_⟩
    by_cases hlast : n + 1 = names.length
    · exact .inl hlast
    · exact .inr (hsearchable n (by omega))

/-- A search comes upon exactly what is met on ways that can be listed. -/
theorem mem_listing_iff {parts : List Text} :
    parts ∈ fs.listing directory ↔
      ∃ names, fs.Met directory names ∧ names.map FileName.text = parts := by
  simp only [listing, List.mem_map, List.mem_filter, mem_below_iff, isListed_iff]
  constructor
  · rintro ⟨names, ⟨⟨hne, hstored⟩, hreadable, hsearchable⟩, rfl⟩
    exact ⟨names, ⟨hne, hstored, hreadable, hsearchable⟩, rfl⟩
  · rintro ⟨names, hmet, rfl⟩
    exact ⟨names, ⟨⟨hmet.ne_nil, hmet.stored⟩, hmet.readable, hmet.searchable⟩, rfl⟩

theorem nodup_listing (fs : FileSystem) (directory : List FileName) :
    (fs.listing directory).Nodup :=
  ((nodup_eraseDups _).filter _).map (List.map_injective_iff.mpr FileName.text_injective)

/-- Whatever a search comes upon is there, or it is refused to look it up. -/
theorem IsTree.find_met (h : fs.IsTree) (hfind : fs.find p = .ok (.directory directory))
    (hmet : fs.Met directory names) :
    (∃ cause, fs.find (p.below (names.map FileName.text)) = .error cause ∧
      cause.isAbsence = false) ∨
    ∃ found, fs.find (p.below (names.map FileName.text)) = .ok found ∧
      fs.entry? (directory ++ names) = some found := by
  obtain ⟨hne, ⟨whole, hwhole, hbegins⟩, -, hsearchable⟩ := hmet
  have hproper : ∀ name ∈ names, name.Proper := fun name hname ↦
    h.proper whole hwhole name (hbegins.subset (List.mem_append_right _ hname))
  have hparts : ∀ part ∈ names.map FileName.text, part.hasBytes = true :=
    List.forall_mem_map.mpr fun name hname ↦ FileName.hasBytes_text (hproper name hname).no_null
  rw [find_below hfind hparts]
  split
  · exact .inl ⟨_, rfl, rfl⟩
  -- all names but the last lead to the directory that the last one is looked up in
  obtain ⟨parents, name, rfl⟩ := (List.eq_nil_or_concat' names).resolve_left hne
  rw [← List.append_assoc] at hbegins ⊢
  have hparent : (parents.map FileName.text).foldlM fs.enter (.directory directory) =
      .ok (.directory (directory ++ parents)) := by
    apply h.foldlM_enter hwhole ((List.prefix_append _ _).trans hbegins)
    · rintro rfl
      exact absurd hbegins.length_le (by simp)
    · intro n hn
      have hsearch := hsearchable n (by simpa using hn)
      rwa [List.take_append_of_le_length hn.le] at hsearch
  rw [List.map_append, List.foldlM_append, hparent, ok_bind, List.map_singleton,
    List.foldlM_cons, enter_text (hproper name (by simp))]
  split
  · exact .inl ⟨_, rfl, rfl⟩
  · right
    rcases entry?_of_begins hwhole hbegins with ⟨content, -, hentry⟩ | ⟨-, hentry⟩
    · exact ⟨_, by rw [hentry]; rfl, hentry⟩
    · exact ⟨_, by rw [hentry]; rfl, hentry⟩

/-- Whatever a search comes upon and is not refused is a file if and only if it is stored as one. -/
theorem IsTree.yields_isFile (h : fs.IsTree) (hfind : fs.find p = .ok (.directory directory))
    (hmet : fs.Met directory names) :
    Yields (fs.isFile (p.below (names.map FileName.text))) fun isFile ↦
      (isFile = true ↔ ∃ content, (directory ++ names, content) ∈ fs.files) := by
  unfold isFile
  rcases h.find_met hfind hmet with ⟨cause, hrefused, hcause⟩ | ⟨found, hfound, hentry⟩
  · simp only [hrefused, hcause]
    exact .error _
  · obtain ⟨-, ⟨whole, hwhole, hbegins⟩, -, -⟩ := hmet
    rw [hfound]
    rcases entry?_of_begins hwhole hbegins with ⟨content, hfile, heq⟩ | ⟨hnone, heq⟩
    · obtain rfl := Option.some.inj (hentry.symm.trans heq)
      exact .ok (iff_of_true rfl ⟨content, hfile⟩)
    · obtain rfl := Option.some.inj (hentry.symm.trans heq)
      exact .ok (iff_of_false Bool.false_ne_true fun ⟨content, hfile⟩ ↦ hnone content hfile)

end FileSystem

/-! ### What a path stands for -/

namespace Source

variable {fs : FileSystem} {path q : Path} {directory : List FileName} {failure : SetupFailure}

theorem isExcluded_iff {part : Text} :
    isExcluded part = true ↔ part ∈ excludedDirectories.map Text.ofString := by
  simp [isExcluded]

/-- The path of a JavaScript file that a search of a directory comes upon, such that nothing on the
way from the directory to the file has the name of an excluded directory. -/
def Finds (fs : FileSystem) (path : Path) (directory : List FileName) (q : Path) : Prop :=
  ∃ names content, fs.Met directory names ∧ (directory ++ names, content) ∈ fs.files ∧
    q = path.below (names.map FileName.text) ∧ Path.HasSourceExtension q.name ∧
      ∀ name ∈ names, name.text ∉ excludedDirectories.map Text.ofString

/-- What a path stands for: a file for itself, a directory for the sources found below it, in
strictly increasing order. -/
inductive StandsFor (fs : FileSystem) (path : Path) : List Path → Prop
  | file {names : List FileName} {content : List UInt8}
      (hfind : fs.find path = .ok (.file names content)) : StandsFor fs path [path]
  | directory {names : List FileName} {found : List Path}
      (hfind : fs.find path = .ok (.directory names))
      (hincreasing : (found.map Path.codes).Pairwise (· < ·))
      (hfound : ∀ q, q ∈ found ↔ Finds fs path names q) : StandsFor fs path found

/-- Why it is not known what a path stands for: it leads nowhere, or it is refused to look it up, or
the least of all that a search comes upon and is refused.  Only the first of these is reported. -/
inductive Unresolved (fs : FileSystem) (path : Path) : SetupFailure → Prop
  | missing {cause : OpenError} (hfind : fs.find path = .error cause)
      (habsent : cause.isAbsence = true) : Unresolved fs path (.reported (.missingSource path))
  | refused {cause : OpenError} (hfind : fs.find path = .error cause)
      (hpresent : cause.isAbsence = false) : Unresolved fs path (.fatal (.unopened path cause))
  | below {directory names : List FileName} {cause : OpenError}
      (hfind : fs.find path = .ok (.directory directory)) (hmet : fs.Met directory names)
      (h : fs.isFile (path.below (names.map FileName.text)) = .error cause)
      (hleast : ∀ others, fs.Met directory others →
        (path.below (others.map FileName.text)).codes <
          (path.below (names.map FileName.text)).codes →
        Succeeds (fs.isFile (path.below (others.map FileName.text)))) :
      Unresolved fs path (.fatal (.unopened (path.below (names.map FileName.text)) cause))

/-- What a search of a directory comes upon, in the order in which it is looked up. -/
def candidates (fs : FileSystem) (directory : List FileName) : List (List Text) :=
  (fs.listing directory).mergeSort Path.partsPrecede

/-- What a search comes upon is looked up in strictly increasing order. -/
theorem pairwise_candidates (fs : FileSystem) (path : Path) (directory : List FileName) :
    (candidates fs directory).Pairwise fun as bs ↦ (path.below as).codes < (path.below bs).codes :=
  Path.pairwise_mergeSort (fs.nodup_listing directory) path

theorem mem_candidates_iff {parts : List Text} :
    parts ∈ candidates fs directory ↔
      ∃ names, fs.Met directory names ∧ names.map FileName.text = parts := by
  rw [candidates, List.mem_mergeSort, FileSystem.mem_listing_iff]

def isKept (path : Path) (parts : List Text) (isFile : Bool) : Bool :=
  isFile && (path.below parts).isSupported && !parts.any isExcluded

theorem isKept_iff {names : List FileName} {isFile : Bool} :
    isKept path (names.map FileName.text) isFile = true ↔
      isFile = true ∧ Path.HasSourceExtension (path.below (names.map FileName.text)).name ∧
        ∀ name ∈ names, name.text ∉ excludedDirectories.map Text.ofString := by
  simp only [isKept, Bool.and_eq_true, Path.isSupported_iff, Bool.not_eq_true', List.any_eq_false,
    isExcluded_iff, List.forall_mem_map, and_assoc]

theorem keep_eq (fs : FileSystem) (path : Path) (parts : List Text) :
    keep fs path parts =
      ((fs.isFile (path.below parts)).mapError fun cause ↦
        SetupFailure.fatal (.unopened (path.below parts) cause)).map fun isFile ↦
          if isKept path parts isFile then [path.below parts] else [] := by
  unfold keep
  dsimp only
  cases fs.isFile (path.below parts) with
  | error cause => rfl
  | ok isFile => rfl

theorem search_eq_error_iff :
    search fs path directory = .error failure ↔
      ∃ parts cause, FailsAt (fun parts ↦ fs.isFile (path.below parts)) (candidates fs directory)
        parts cause ∧ SetupFailure.fatal (.unopened (path.below parts) cause) = failure := by
  rw [search, map_eq_error_iff, mapM_eq_error_iff, funext (keep_eq fs path)]
  simp only [FailsAt.map_iff, FailsAt.mapError_iff]
  rfl

theorem failsAt_candidates_iff {parts : List Text} {cause : OpenError} :
    FailsAt (fun parts ↦ fs.isFile (path.below parts)) (candidates fs directory) parts cause ↔
      (∃ names, fs.Met directory names ∧ names.map FileName.text = parts) ∧
        fs.isFile (path.below parts) = .error cause ∧
          ∀ others, fs.Met directory others →
            (path.below (others.map FileName.text)).codes < (path.below parts).codes →
            Succeeds (fs.isFile (path.below (others.map FileName.text))) := by
  rw [failsAt_iff_of_pairwise (fun _ _ ↦ lt_asymm) (pairwise_candidates fs path directory)]
  simp only [mem_candidates_iff, forall_exists_index, and_imp, forall_apply_eq_imp_iff₂]

/-- The reasons for which a path cannot be resolved are complete. -/
theorem expand_eq_error_iff : expand fs path = .error failure ↔ Unresolved fs path failure := by
  unfold expand
  constructor
  · intro h
    split at h
    · next directory hfind =>
      obtain ⟨parts, cause, hfails, rfl⟩ := search_eq_error_iff.mp h
      obtain ⟨⟨names, hmet, rfl⟩, h, hleast⟩ := failsAt_candidates_iff.mp hfails
      exact .below hfind hmet h hleast
    · cases h
    · next cause hfind =>
      cases hcause : cause.isAbsence with
      | true =>
          rw [hcause, if_pos rfl] at h
          exact Except.error.inj h ▸ .missing hfind hcause
      | false =>
          rw [hcause, if_neg Bool.false_ne_true] at h
          exact Except.error.inj h ▸ .refused hfind hcause
  · intro h
    cases h with
    | missing hfind habsent => simp only [hfind, habsent, if_true]
    | refused hfind hpresent => simp only [hfind, hpresent, Bool.false_eq_true, if_false]
    | below hfind hmet h hleast =>
        simp only [hfind]
        refine search_eq_error_iff.mpr ⟨_, _, failsAt_candidates_iff.mpr ?_, rfl⟩
        exact ⟨⟨_, hmet, rfl⟩, h, hleast⟩

/-- The first path that cannot be resolved decides how the search fails. -/
theorem collect_eq_error_iff {paths : List Path} :
    collect fs paths = .error failure ↔
      ∃ path, FirstAt (Unresolved fs) paths path failure := by
  rw [collect, map_eq_error_iff, mapM_eq_error_iff]
  simp only [failsAt_iff_firstAt expand_eq_error_iff]

/-- If everything that a search comes upon can be looked up, some of it is kept. -/
theorem search_eq_ok {isFile : List Text → Bool}
    (h : ∀ parts ∈ candidates fs directory, fs.isFile (path.below parts) = .ok (isFile parts)) :
    search fs path directory =
      .ok (((candidates fs directory).filter fun parts ↦ isKept path parts (isFile parts)).map
        path.below) := by
  have hkeep : (candidates fs directory).mapM (keep fs path) =
      .ok ((candidates fs directory).map fun parts ↦
        if isKept path parts (isFile parts) then [path.below parts] else []) := by
    refine mapM_eq_ok_map fun parts hparts ↦ ?_
    rw [keep_eq, h parts hparts]
    rfl
  rw [search, ← candidates, hkeep]
  refine congrArg Except.ok ?_
  generalize candidates fs directory = partss
  induction partss with
  | nil => rfl
  | cons parts partss ih =>
      rw [List.map_cons, List.flatten_cons, ih, List.filter_cons]
      split
      · rfl
      · rfl

theorem standsFor_of_search (h : fs.IsTree) (hfind : fs.find path = .ok (.directory directory))
    {found : List Path} (hsearch : search fs path directory = .ok found) :
    StandsFor fs path found := by
  have hsucceeds : ∀ parts ∈ candidates fs directory, Succeeds (fs.isFile (path.below parts)) := by
    intro parts hparts
    obtain ⟨groups, hgroups, -⟩ := map_eq_ok_iff.mp hsearch
    have hkeep := Succeeds.mapM_iff.mp ⟨groups, hgroups⟩ parts hparts
    rw [keep_eq] at hkeep
    exact Succeeds.mapError_iff.mp (Succeeds.map_iff.mp hkeep)
  have hlook : ∀ parts ∈ candidates fs directory, fs.isFile (path.below parts) =
      .ok (decide (directory ++ parts.map FileName.ofText ∈ fs.files.map Prod.fst)) := by
    intro parts hparts
    obtain ⟨isFile, hisFile⟩ := hsucceeds parts hparts
    obtain ⟨names, hmet, rfl⟩ := mem_candidates_iff.mp hparts
    have hstored : isFile = true ↔ _ := h.yields_isFile hfind hmet isFile hisFile
    rw [hisFile, List.map_map, FileName.ofText_comp_text, List.map_id, Except.ok.injEq,
      Bool.eq_iff_iff, decide_eq_true_eq, hstored]
    simp
  rw [search_eq_ok hlook, Except.ok.injEq] at hsearch
  subst hsearch
  apply StandsFor.directory hfind
  · rw [List.pairwise_map, List.pairwise_map]
    exact (pairwise_candidates fs path directory).sublist List.filter_sublist
  · intro q
    rw [List.mem_map]
    constructor
    · rintro ⟨parts, hparts, rfl⟩
      obtain ⟨hparts, hkept⟩ := List.mem_filter.mp hparts
      obtain ⟨names, hmet, rfl⟩ := mem_candidates_iff.mp hparts
      obtain ⟨hstored, hextension, hincluded⟩ := isKept_iff.mp hkept
      rw [List.map_map, FileName.ofText_comp_text, List.map_id, decide_eq_true_eq] at hstored
      obtain ⟨⟨_, content⟩, hfile, rfl⟩ := List.mem_map.mp hstored
      exact ⟨names, content, hmet, hfile, rfl, hextension, hincluded⟩
    · rintro ⟨names, content, hmet, hfile, rfl, hextension, hincluded⟩
      refine ⟨_, List.mem_filter.mpr ⟨mem_candidates_iff.mpr ⟨names, hmet, rfl⟩, ?_⟩, rfl⟩
      refine isKept_iff.mpr ⟨?_, hextension, hincluded⟩
      rw [List.map_map, FileName.ofText_comp_text, List.map_id, decide_eq_true_eq]
      exact List.mem_map_of_mem hfile

theorem standsFor_of_expand (h : fs.IsTree) {found : List Path}
    (hexpand : expand fs path = .ok found) : StandsFor fs path found := by
  unfold expand at hexpand
  split at hexpand
  · next directory hfind => exact standsFor_of_search h hfind hexpand
  · next names content hfind =>
    cases hexpand
    exact .file hfind
  · cases hexpand

/-- The sources that paths lead to are the concatenation of what each of them stands for.  The first
path of which this is not known ends the collection; it is reported if it leads nowhere. -/
theorem collect_standsFor (fs : FileSystem) (h : fs.IsTree) (paths : List Path) :
    ((∀ path ∈ paths, ∀ failure, ¬ Unresolved fs path failure) →
      ∃ groups, collect fs paths = .ok groups.flatten ∧
        List.Forall₂ (StandsFor fs) paths groups) ∧
    (∀ path failure, FirstAt (Unresolved fs) paths path failure →
      collect fs paths = .error failure) ∧
    ∀ path, (SetupError.missingSource path).message =
      Text.concat ["Source path does not exist: ", path.render] := by
  refine ⟨?_, ?_, fun path ↦ rfl⟩
  · intro hresolved
    have hexpand : ∀ path ∈ paths, Succeeds (expand fs path) := by
      intro path hpath
      refine succeeds_iff_forall_ne.mpr fun failure hfailure ↦ ?_
      exact hresolved path hpath failure (expand_eq_error_iff.mp hfailure)
    obtain ⟨groups, hgroups⟩ := Succeeds.mapM_iff.mpr hexpand
    refine ⟨groups, ?_, ?_⟩
    · rw [collect, hgroups]
      rfl
    · apply (mapM_eq_ok_iff.mp hgroups).imp
      intro path found hfound
      exact standsFor_of_expand h hfound
  · intro path failure hfirst
    exact collect_eq_error_iff.mpr ⟨path, hfirst⟩

/-- A package in a directory of foreign code, which is the working directory, and a file beside that
directory.  One directory of the package cannot be listed. -/
def package : FileSystem where
  files :=
    let paths : List Text :=
      ["vendor/app/.js", "vendor/app/a/Main.MJS", "vendor/app/a.js", "vendor/app/build/out.js",
        "vendor/app/secret/b.js", "notes.txt"]
    paths.map fun path ↦ ((Path.parse path).names, [])
  workingDirectory := Path.names (.parse "vendor")
  unreadable := [Path.names (.parse "vendor/app/secret")]

theorem collect_standsFor_package :
    let asked : List Path := [.parse "app", .parse "../notes.txt"]
    package.IsTree ∧ (∀ path ∈ asked, ∀ failure, ¬ Unresolved package path failure) ∧
      (∃ groups, List.Forall₂ (StandsFor package) asked groups ∧
        groups.flatten = [.parse "app/a/Main.MJS", .parse "app/a.js", .parse "../notes.txt"]) ∧
      collect package (asked ++ [.parse "/app", .parse "lib"]) =
        .error (.reported (.missingSource (.parse "/app"))) := by
  intro asked
  have htree : package.IsTree := by
    refine ⟨by decide +kernel, by decide +kernel, fun names hnames name hname ↦ ?_⟩
    have hproper : ∀ names ∈ package.stored, ∀ name ∈ names,
        0 ∉ name ∧ name ≠ FileName.ofText ".." ∧ name.length ≤ FileSystem.nameLimit := by
      decide +kernel
    obtain ⟨hnull, hparent, hshort⟩ := hproper names hnames name hname
    exact ⟨hnull, hparent, hshort⟩
  have hsearch : expand package (.parse "app") =
      .ok [.parse "app/a/Main.MJS", .parse "app/a.js"] := by
    have hfind : package.find (.parse "app") =
        .ok (.directory (Path.names (.parse "vendor/app"))) := by rfl
    rw [expand, hfind]
    dsimp only
    rw [search, List.mergeSort_of_pairwise (by decide +kernel)]
    decide +kernel
  have hfile : expand package (.parse "../notes.txt") = .ok [.parse "../notes.txt"] := by rfl
  have hasked : ∀ path ∈ asked, ∀ failure, ¬ Unresolved package path failure := by
    rw [List.forall_mem_cons, List.forall_mem_singleton]
    constructor
    · intro failure hfailure
      cases hsearch.symm.trans (expand_eq_error_iff.mpr hfailure)
    · intro failure hfailure
      cases hfile.symm.trans (expand_eq_error_iff.mpr hfailure)
  obtain ⟨groups, hgroups, hstands⟩ := (collect_standsFor package htree asked).1 hasked
  refine ⟨htree, hasked, ⟨groups, hstands, ?_⟩, ?_⟩
  · rw [collect, List.mapM_cons, hsearch, ok_bind, List.mapM_cons, hfile] at hgroups
    exact (Except.ok.inj hgroups).symm
  · have hmissing :
        Unresolved package (.parse "/app") (.reported (.missingSource (.parse "/app"))) :=
      .missing (show package.find (.parse "/app") = .error .notFound by rfl) rfl
    exact (collect_standsFor package htree _).2.1 _ _
      ⟨asked, [.parse "lib"], rfl, hasked, hmissing⟩

/-- A name that is too long for any file leads nowhere, but this is not reported. -/
theorem collect_overlongName :
    let path : Path := .parse (List.replicate 300 (CodePoint.ofChar 'a') ++ (".js" : Text))
    let empty : FileSystem := { files := [] }
    empty.IsTree ∧ (∀ found, empty.find path ≠ .ok found) ∧
      collect empty [path] = .error (.fatal (.unopened path .tooLong)) := by
  intro path empty
  have hfind : empty.find path = .error .tooLong := by decide +kernel
  refine ⟨⟨by simp [empty], by simp [empty], by simp [empty, FileSystem.stored]⟩, ?_, ?_⟩
  · intro found hfound
    cases hfind.symm.trans hfound
  · exact collect_eq_error_iff.mpr ⟨path, [], [], rfl, List.forall_mem_nil _, .refused hfind rfl⟩

end Source

end CallAudit
