import CallAudit.Files.Path
import Mathlib.Data.List.Basic

/-!
# Names of JavaScript files

A file is known by the ending of its name.  The ending is compared in lower case by the full rules
of Unicode; for the endings that are looked for, this comes to the same as with the letters `A .. Z`
only, since no other code point has one of their letters as its lower-case form.
-/

namespace CallAudit

namespace CodePoint

/-- An ASCII code point that no capital but an ASCII one goes to, and that is no capital itself.
The letter `k` is none: it is the form of the Kelvin sign, too. -/
def IsPlainLower (c : CodePoint) : Prop :=
  c.value ≤ 0x7A ∧ c.value ≠ 0x6B ∧ ¬ (0x41 ≤ c.value ∧ c.value ≤ 0x5A)

instance (c : CodePoint) : Decidable c.IsPlainLower := inferInstanceAs (Decidable (_ ∧ _))

theorem le_value_asciiLower (c : CodePoint) : c.value ≤ c.asciiLower.value := by
  unfold asciiLower
  split
  · exact Nat.le_add_right _ _
  · exact Nat.le_refl _

theorem eq_of_asciiLower_eq_dot {c : CodePoint} (h : c.asciiLower = ofChar '.') :
    c = ofChar '.' := by
  unfold asciiLower at h
  split at h
  · have hvalue : c.value + 0x20 = 0x2E := congrArg value h
    omega
  · exact h

theorem lower_eq_singleton {c : CodePoint} (hdotted : c ≠ 'İ') :
    c.lower = [((CaseRun.lower.findSome? fun run ↦ run.image? c.value).bind ofNat?).getD c] := by
  rw [lower, if_neg hdotted]
  cases (CaseRun.lower.findSome? fun run ↦ run.image? c.value).bind ofNat? with
  | none => rfl
  | some d => rfl

theorem lower_of_ascii {c : CodePoint} (h : c.value < 0x80) : c.lower = [c.asciiLower] := by
  have hbeyond : ∀ run ∈ CaseRun.lower.tail, 0x80 ≤ run.first := by decide +kernel
  have hruns : CaseRun.lower = ⟨0x41, 0x5A, 1, 0x61⟩ :: CaseRun.lower.tail := rfl
  have hdotted : c ≠ 'İ' := by
    rintro rfl
    exact absurd h (by decide)
  rw [lower_eq_singleton hdotted, hruns, List.findSome?_cons]
  by_cases hcapital : 0x41 ≤ c.value ∧ c.value ≤ 0x5A
  · have himage : CaseRun.image? ⟨0x41, 0x5A, 1, 0x61⟩ c.value = some (c.value + 0x20) := by
      rw [CaseRun.image?, if_pos ⟨hcapital.1, hcapital.2, Nat.mod_one _⟩]
      dsimp only
      congr 1
      omega
    have hpoint : ofNat? (c.value + 0x20) = some ⟨c.value + 0x20, by omega⟩ :=
      ofNat?_eq_some_iff.mpr rfl
    simp only [himage, Option.bind_some, hpoint, Option.getD_some, asciiLower, dif_pos hcapital]
  · have himage : CaseRun.image? ⟨0x41, 0x5A, 1, 0x61⟩ c.value = none :=
      if_neg fun hin ↦ hcapital ⟨hin.1, hin.2.1⟩
    have hnone : (CaseRun.lower.tail.findSome? fun run ↦ run.image? c.value) = none := by
      rw [List.findSome?_eq_none_iff]
      intro run hrun
      have hle := hbeyond run hrun
      exact if_neg fun hin ↦ by omega
    simp only [himage, hnone, Option.bind_none, Option.getD_none, asciiLower, dif_neg hcapital]

/-- Of the runs of capitals, only those of ASCII have plain letters as their forms. -/
theorem lower_of_isPlainLower {c : CodePoint} (h : ∀ d ∈ c.lower, d.IsPlainLower) :
    c.lower = [c.asciiLower] := by
  have hruns : ∀ run ∈ CaseRun.lower, run.first = 0x41 ∧ run.last = 0x5A ∨ 0x7A < run.target ∨
      run.first = run.last ∧ run.target = 0x6B := by decide +kernel
  have hdotted : c ≠ 'İ' := by
    rintro rfl
    exact absurd (h ⟨0x307, by decide⟩ (by decide)) (by decide)
  apply lower_of_ascii
  rw [lower_eq_singleton hdotted, List.forall_mem_singleton] at h
  cases hfound : CaseRun.lower.findSome? fun run ↦ run.image? c.value with
  | none =>
      rw [hfound] at h
      exact Nat.lt_of_le_of_lt h.1 (by decide)
  | some n =>
      obtain ⟨run, hrun, himage⟩ := List.exists_of_findSome?_eq_some hfound
      unfold CaseRun.image? at himage
      split at himage
      · next hin =>
        rw [hfound, Option.bind_some] at h
        cases hpoint : ofNat? n with
        | none =>
            rw [hpoint] at h
            exact Nat.lt_of_le_of_lt h.1 (by decide)
        | some d =>
            rw [hpoint, Option.getD_some] at h
            have hvalue : d.value = n := ofNat?_eq_some_iff.mp hpoint
            have hsum := Option.some.inj himage
            obtain ⟨hle, hkelvin, -⟩ := h
            rcases hruns run hrun with hascii | hfar | hsingle <;> omega
      · cases himage

end CodePoint

namespace Text

theorem lowerFrom_eq {t : Text} (h : ∀ c ∈ t, c ≠ .capitalSigma ∧ c.lower = [c.asciiLower])
    (before : Text) :
    lowerFrom before t = t.asciiLower := by
  induction t generalizing before with
  | nil => rfl
  | cons c t ih =>
      obtain ⟨⟨hsigma, hlower⟩, ht⟩ := List.forall_mem_cons.mp h
      rw [lowerFrom, if_neg hsigma, hlower, ih ht]
      rfl

/-- Only ASCII letters have the letters of the endings as their lower-case forms. -/
theorem lower_of_mem_lowerFrom {before t : Text} (h : ∀ d ∈ lowerFrom before t, d.IsPlainLower) :
    ∀ c ∈ t, c ≠ .capitalSigma ∧ c.lower = [c.asciiLower] := by
  induction t generalizing before with
  | nil => exact List.forall_mem_nil _
  | cons c t ih =>
      rw [lowerFrom] at h
      obtain ⟨himage, hrest⟩ := List.forall_mem_append.mp h
      refine List.forall_mem_cons.mpr ⟨?_, ih hrest⟩
      split at himage
      · rw [List.forall_mem_singleton] at himage
        split at himage <;> exact absurd himage (by decide)
      · next hsigma => exact ⟨hsigma, CodePoint.lower_of_isPlainLower himage⟩

/-- Lower case by all rules and by those of ASCII leads to the same plain texts. -/
theorem lower_eq_iff {t word : Text} (hword : ∀ d ∈ word, d.IsPlainLower) :
    t.lower = word ↔ t.asciiLower = word := by
  constructor
  · rintro rfl
    exact (lowerFrom_eq (lower_of_mem_lowerFrom hword) []).symm
  · rintro rfl
    refine lowerFrom_eq ?_ []
    intro c hc
    have hle := c.le_value_asciiLower
    have hplain := (hword _ (List.mem_map_of_mem hc)).1
    refine ⟨?_, CodePoint.lower_of_ascii (by omega)⟩
    rintro rfl
    exact absurd hplain (by decide)

end Text

namespace Path

/-- The name has an ending of JavaScript files, in any letter case, and something before it. -/
def HasSourceExtension (name : Text) : Prop :=
  ∃ stem ending, name = stem ++ ending ∧ stem ≠ [] ∧
    ending.asciiLower ∈ ([".js", ".jsx", ".mjs", ".cjs"] : List Text)

/-- The ending begins with the last dot. -/
theorem extension_append {stem ending : Text} (hstem : stem ≠ []) (hending : ending ≠ [])
    (hdot : ∀ c ∈ ending, c ≠ CodePoint.ofChar '.') :
    extension (stem ++ CodePoint.ofChar '.' :: ending) = CodePoint.ofChar '.' :: ending := by
  have hreverse : (stem ++ CodePoint.ofChar '.' :: ending).reverse =
      ending.reverse ++ CodePoint.ofChar '.' :: stem.reverse := by simp
  have hskipped : ∀ c ∈ ending.reverse, (c != CodePoint.ofChar '.') = true :=
    fun c hc ↦ bne_iff_ne.mpr (hdot c (List.mem_reverse.mp hc))
  have hlength : 0 < stem.length ∧ 0 < ending.length :=
    ⟨List.length_pos_iff.mpr hstem, List.length_pos_iff.mpr hending⟩
  unfold extension
  rw [hreverse, List.dropWhile_append_of_pos hskipped, List.dropWhile_cons_of_neg (by decide),
    List.reverse_cons, List.reverse_reverse]
  dsimp only
  rw [if_neg (by simp only [List.length_append, List.length_cons, List.length_nil]; omega),
    List.length_append, List.length_singleton, Nat.add_sub_cancel, List.drop_left]

theorem exists_stem {name : Text} (h : extension name ≠ []) :
    ∃ stem, stem ≠ [] ∧ name = stem ++ extension name := by
  unfold extension at h ⊢
  dsimp only at h ⊢
  split at h
  · exact absurd rfl h
  · next hstem =>
    rw [if_neg hstem]
    refine ⟨_, ?_, (List.take_append_drop _ name).symm⟩
    rw [ne_eq, List.take_eq_nil_iff]
    rintro (hzero | rfl)
    · omega
    · exact hstem (.inl (by decide))

/-- The lower-case form of Unicode makes no difference to the endings of JavaScript files. -/
theorem isSupported_iff {p : Path} : p.isSupported = true ↔ HasSourceExtension p.name := by
  have hplain : ∀ e ∈ ([".js", ".jsx", ".mjs", ".cjs"] : List Text), ∀ d ∈ e, d.IsPlainLower := by
    decide
  have hdotted :
      ∀ e ∈ ([".js", ".jsx", ".mjs", ".cjs"] : List Text), e.head? = some (CodePoint.ofChar '.') ∧
      e.tail ≠ [] ∧ CodePoint.ofChar '.' ∉ e.tail := by decide
  have hsupported : p.isSupported = true ↔
      (extension p.name).lower ∈ ([".js", ".jsx", ".mjs", ".cjs"] : List Text) := by
    change _ ↔ _ ∈ supportedExtensions.map Text.ofString
    rw [isSupported, List.any_eq_true, List.mem_map]
    simp only [beq_iff_eq]
  rw [hsupported]
  constructor
  · intro h
    have hlower := (Text.lower_eq_iff (hplain _ h)).mp rfl
    have hne : extension p.name ≠ [] := by
      intro hempty
      rw [hempty] at h
      exact absurd h (by decide)
    obtain ⟨stem, hstem, hname⟩ := exists_stem hne
    exact ⟨stem, _, hname, hstem, hlower ▸ h⟩
  · rintro ⟨stem, ending, hname, hstem, hending⟩
    obtain ⟨hhead, htail, hdots⟩ := hdotted _ hending
    cases ending with
    | nil => cases hhead
    | cons c ending =>
        obtain rfl := CodePoint.eq_of_asciiLower_eq_dot (Option.some.inj hhead)
        have hextension : extension p.name = CodePoint.ofChar '.' :: ending := by
          rw [hname]
          apply extension_append hstem
          · rintro rfl
            exact htail rfl
          · rintro d hd rfl
            exact hdots (List.mem_map_of_mem hd)
        rw [hextension, (Text.lower_eq_iff (hplain _ hending)).mpr rfl]
        exact hending

end Path

end CallAudit
