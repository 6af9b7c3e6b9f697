import CallAudit.Proofs.DecodedTexts
import Mathlib.Logic.Function.Basic

/-!
# Texts of file names

A file name is a sequence of bytes that is shown as a text.  Bytes that are no part of an encoded
code point are shown as surrogates, which nothing else is shown as, so that the name can be
recovered from its text.
-/

namespace CallAudit

namespace Utf8

/-- Encoding gives back the bytes that were decoded, as they are the only encoding. -/
theorem Encodes.encodePoint_eq {c : CodePoint} {bytes : List UInt8} (h : Encodes c bytes) :
    encodePoint c = bytes := by
  have hbyte : ∀ {n : Nat} {b : UInt8}, n = b.toNat → UInt8.ofNat n = b := by
    rintro n b rfl
    exact UInt8.ofNat_toNat
  have hzero : Nat.pow 2 0 = 1 := rfl
  have hsix : Nat.pow 2 6 = 0x40 := rfl
  have htwelve : Nat.pow 2 12 = 0x1000 := rfl
  unfold encodePoint
  simp only [hzero, hsix, htwelve]
  cases h with
  | one hb hc => rw [if_pos (by omega), hbyte hc]
  | two hb h₁ hc =>
      rw [if_neg (by omega), if_pos (by omega)]
      simp only [List.cons.injEq, and_true]
      exact ⟨hbyte (by omega), hbyte (by omega)⟩
  | three hb h₁ hlo hhi h₂ hc =>
      rw [if_neg (by omega), if_neg (by omega), if_pos (by omega)]
      simp only [List.cons.injEq, and_true]
      exact ⟨hbyte (by omega), hbyte (by omega), hbyte (by omega)⟩
  | four hb h₁ hlo hhi h₂ h₃ hc =>
      rw [if_neg (by omega), if_neg (by omega), if_neg (by omega)]
      simp only [List.cons.injEq, and_true]
      exact ⟨hbyte (by omega), hbyte (by omega), hbyte (by omega), hbyte (by omega)⟩

/-- Refused bytes are beyond ASCII, as are the bytes that surrogates stand for. -/
theorem le_of_readMore_eq_refused {value lo hi taken needed : Nat} {rest : List UInt8}
    {reason : DecodeFault.Reason} {more : Nat} (hlo : 0x80 ≤ lo)
    (h : readMore value lo hi taken needed rest = .refused reason more) :
    ∀ b ∈ rest.take (more - taken), 0x80 ≤ b.toNat := by
  induction needed generalizing value lo hi taken rest with
  | zero =>
      unfold readMore at h
      split at h
      · cases h
      · cases h
        rw [Nat.zero_sub, List.take_zero]
        exact List.forall_mem_nil _
  | succ needed ih =>
      cases rest with
      | nil =>
          rw [List.take_nil]
          exact List.forall_mem_nil _
      | cons b rest =>
          rw [readMore] at h
          split at h
          · next hb =>
            have hrest := ih (Nat.le_refl _) h
            by_cases hmore : more ≤ taken
            · rw [Nat.sub_eq_zero_of_le hmore, List.take_zero]
              exact List.forall_mem_nil _
            · rw [show more - taken = more - (taken + 1) + 1 by omega, List.take_succ_cons]
              exact List.forall_mem_cons.mpr ⟨Nat.le_trans hlo hb.1, hrest⟩
          · cases h
            rw [Nat.sub_self, List.take_zero]
            exact List.forall_mem_nil _

/-- An ASCII byte is never refused. -/
theorem le_of_read_eq_refused {b : UInt8} {rest : List UInt8} {reason : DecodeFault.Reason}
    {more : Nat} (h : read b rest = .refused reason more) :
    ∀ x ∈ b :: rest.take more, 0x80 ≤ x.toNat := by
  unfold read at h
  dsimp only at h
  split at h
  · next hb =>
    have hpoint : CodePoint.ofNat? b.toNat = some ⟨b.toNat, by omega⟩ :=
      CodePoint.ofNat?_eq_some_iff.mpr rfl
    simp [readMore, hpoint] at h
  · next hb =>
    refine List.forall_mem_cons.mpr ⟨Nat.le_of_not_lt hb, ?_⟩
    split at h
    · cases h
      exact List.forall_mem_nil _
    · split at h
      · exact le_of_readMore_eq_refused (by decide) h
      · split at h
        · exact le_of_readMore_eq_refused (by split <;> decide) h
        · split at h
          · exact le_of_readMore_eq_refused (by split <;> decide) h
          · cases h
            exact List.forall_mem_nil _

end Utf8

theorem CodePoint.isByteEscape_iff {c : CodePoint} :
    c.isByteEscape = true ↔ 0xDC80 ≤ c.value ∧ c.value ≤ 0xDCFF := by
  simp [isByteEscape, within]

namespace FileName

theorem ofText_append (s t : Text) : ofText (s ++ t) = ofText s ++ ofText t := List.flatMap_append

theorem ofText_cons_of_not_isSurrogate {c : CodePoint} (h : ¬ c.IsSurrogate) (t : Text) :
    ofText (c :: t) = Utf8.encodePoint c ++ ofText t := by
  have hescape : ¬ c.isByteEscape = true := by
    unfold CodePoint.IsSurrogate at h
    rw [CodePoint.isByteEscape_iff]
    omega
  rw [ofText, List.flatMap_cons, if_neg hescape]
  rfl

theorem isByteEscape_byteEscape {b : UInt8} (h : 0x80 ≤ b.toNat) :
    (Utf8.byteEscape b).isByteEscape = true := by
  have hlt := b.toNat_lt
  rw [CodePoint.isByteEscape_iff]
  dsimp only [Utf8.byteEscape]
  omega

theorem ofText_byteEscapes {bytes : List UInt8} (h : ∀ b ∈ bytes, 0x80 ≤ b.toNat) :
    ofText (bytes.map Utf8.byteEscape) = bytes := by
  induction bytes with
  | nil => rfl
  | cons b bytes ih =>
      obtain ⟨hb, hbytes⟩ := List.forall_mem_cons.mp h
      have hescape := isByteEscape_byteEscape hb
      have hvalue : (Utf8.byteEscape b).value - 0xDC00 = b.toNat := by
        dsimp only [Utf8.byteEscape]
        omega
      have hrest := ih hbytes
      rw [ofText] at hrest
      rw [List.map_cons, ofText, List.flatMap_cons, if_pos hescape, hvalue, UInt8.ofNat_toNat,
        hrest]
      rfl

/-- The text of a name spells the name. -/
theorem ofText_text (name : FileName) : ofText name.text = name := by
  unfold text
  fun_induction Utf8.decodeEscaping name with
  | case1 => rfl
  | case2 b rest c more h ih =>
      have hencodes := Utf8.encodes_of_read h
      rw [ofText_cons_of_not_isSurrogate hencodes.not_isSurrogate, hencodes.encodePoint_eq, ih,
        List.cons_append, List.take_append_drop]
  | case3 b rest reason more h ih =>
      have hbytes := ofText_byteEscapes (Utf8.le_of_read_eq_refused h)
      rw [← List.cons_append, ← List.map_cons, ofText_append, hbytes, ih, List.cons_append,
        List.take_append_drop]

theorem ofText_comp_text : ofText ∘ text = id := funext ofText_text

/-- Different names are shown differently. -/
theorem text_injective : Function.Injective text := Function.LeftInverse.injective ofText_text

/-- The surrogates in the text of a name all stand for bytes. -/
theorem isUnencodable_of_mem_text {name : FileName} :
    ∀ c ∈ name.text, c.isUnencodable = false := by
  unfold text
  fun_induction Utf8.decodeEscaping name with
  | case1 => exact List.forall_mem_nil _
  | case2 b rest c more h ih =>
      have hc := (Utf8.encodes_of_read h).not_isSurrogate
      exact List.forall_mem_cons.mpr ⟨by simp [CodePoint.isUnencodable, hc], ih⟩
  | case3 b rest reason more h ih =>
      rw [← List.cons_append, ← List.map_cons, List.forall_mem_append, List.forall_mem_map]
      refine ⟨fun b' hb' ↦ ?_, ih⟩
      simp [CodePoint.isUnencodable,
        isByteEscape_byteEscape (Utf8.le_of_read_eq_refused h b' hb')]

theorem hasBytes_text {name : FileName} (h : 0 ∉ name) : name.text.hasBytes = true := by
  refine List.all_eq_true.mpr fun c hc ↦ ?_
  have hnull : c.value ≠ 0 := by
    -- a null in the text would be a null among the bytes that it spells
    intro hzero
    have hescape : c.isByteEscape = false := by
      simp [CodePoint.isByteEscape, CodePoint.within, hzero]
    have hbytes : Utf8.encodePoint c = [0] := by simp [Utf8.encodePoint, hzero]
    have hmem : (0 : UInt8) ∈ ofText name.text := by
      refine List.mem_flatMap.mpr ⟨c, hc, ?_⟩
      simp [hescape, hbytes]
    exact h (ofText_text name ▸ hmem)
  simp [isUnencodable_of_mem_text c hc, hnull]

end FileName

end CallAudit
