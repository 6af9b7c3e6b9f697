import CallAudit.Files.FileSystem
import CallAudit.Proofs.Success

/-!
# Decoded texts

None of the charsets has an encoding for surrogates, so that a text that was read from a file in one
of them has none and can be encoded again.
-/

namespace CallAudit

namespace Text

def Scalar (t : Text) : Prop := ∀ c ∈ t, ¬ c.IsSurrogate

theorem scalar_nil : Scalar [] := List.forall_mem_nil _

theorem Scalar.cons {c : CodePoint} {t : Text} (hc : ¬ c.IsSurrogate) (ht : Scalar t) :
    Scalar (c :: t) :=
  List.forall_mem_cons.mpr ⟨hc, ht⟩

theorem hasSurrogate_eq_false_iff {t : Text} : t.hasSurrogate = false ↔ t.Scalar := by
  simp [hasSurrogate, Scalar]

theorem Scalar.unifyNewlines {t : Text} (h : t.Scalar) : t.unifyNewlines.Scalar := by
  have hfeed : ¬ CodePoint.lineFeed.IsSurrogate := by decide
  fun_induction Text.unifyNewlines t with
  | case1 => exact h
  | case2 => exact scalar_nil.cons hfeed
  | case3 c hc => exact h
  | case4 rest ih =>
      obtain ⟨-, -, hrest⟩ : _ ∧ _ ∧ _ := by simpa [Scalar] using h
      exact (ih hrest).cons hfeed
  | case5 d rest hd ih => exact (ih (List.forall_mem_cons.mp h).2).cons hfeed
  | case6 c d rest hc ih =>
      exact (ih (List.forall_mem_cons.mp h).2).cons (List.forall_mem_cons.mp h).1

end Text

namespace Utf8

theorem point_of_readMore_zero {value lo hi taken : Nat} {rest : List UInt8} {c : CodePoint}
    {more : Nat} (h : readMore value lo hi taken 0 rest = .point c more) :
    c.value = value ∧ more = taken := by
  unfold readMore at h
  split at h
  · next hc =>
    cases h
    exact ⟨CodePoint.ofNat?_eq_some_iff.mp hc, rfl⟩
  · cases h

/-- One continuation byte adds six bits. -/
theorem exists_byte_of_readMore_succ {value lo hi taken needed : Nat} {rest : List UInt8}
    {c : CodePoint} {more : Nat}
    (h : readMore value lo hi taken (needed + 1) rest = .point c more) :
    ∃ b rest', rest = b :: rest' ∧ lo ≤ b.toNat ∧ b.toNat ≤ hi ∧
      readMore (value * 0x40 + (b.toNat - 0x80)) 0x80 0xBF (taken + 1) needed rest' =
        .point c more := by
  cases rest with
  | nil => cases h
  | cons b rest =>
      rw [readMore] at h
      split at h
      · next hb => exact ⟨b, rest, rfl, hb.1, hb.2, h⟩
      · cases h

/-- The bytes are the encoding of the code point.  The bounds on the second byte leave each code
point one encoding, and surrogates none. -/
inductive Encodes (c : CodePoint) : List UInt8 → Prop
  | one {b : UInt8} (hb : b.toNat < 0x80) (hc : c.value = b.toNat) : Encodes c [b]
  | two {b b₁ : UInt8} (hb : 0xC2 ≤ b.toNat ∧ b.toNat < 0xE0)
      (h₁ : 0x80 ≤ b₁.toNat ∧ b₁.toNat ≤ 0xBF)
      (hc : c.value = (b.toNat - 0xC0) * 0x40 + (b₁.toNat - 0x80)) : Encodes c [b, b₁]
  | three {b b₁ b₂ : UInt8} (hb : 0xE0 ≤ b.toNat ∧ b.toNat < 0xF0)
      (h₁ : 0x80 ≤ b₁.toNat ∧ b₁.toNat ≤ 0xBF) (hlo : b.toNat = 0xE0 → 0xA0 ≤ b₁.toNat)
      (hhi : b.toNat = 0xED → b₁.toNat ≤ 0x9F) (h₂ : 0x80 ≤ b₂.toNat ∧ b₂.toNat ≤ 0xBF)
      (hc : c.value = ((b.toNat - 0xE0) * 0x40 + (b₁.toNat - 0x80)) * 0x40 + (b₂.toNat - 0x80)) :
      Encodes c [b, b₁, b₂]
  | four {b b₁ b₂ b₃ : UInt8} (hb : 0xF0 ≤ b.toNat ∧ b.toNat < 0xF5)
      (h₁ : 0x80 ≤ b₁.toNat ∧ b₁.toNat ≤ 0xBF) (hlo : b.toNat = 0xF0 → 0x90 ≤ b₁.toNat)
      (hhi : b.toNat = 0xF4 → b₁.toNat ≤ 0x8F) (h₂ : 0x80 ≤ b₂.toNat ∧ b₂.toNat ≤ 0xBF)
      (h₃ : 0x80 ≤ b₃.toNat ∧ b₃.toNat ≤ 0xBF)
      (hc : c.value = (((b.toNat - 0xF0) * 0x40 + (b₁.toNat - 0x80)) * 0x40 + (b₂.toNat - 0x80)) *
        0x40 + (b₃.toNat - 0x80)) : Encodes c [b, b₁, b₂, b₃]

/-- A code point is read only from its one encoding. -/
theorem encodes_of_read {b : UInt8} {rest : List UInt8} {c : CodePoint} {more : Nat}
    (h : read b rest = .point c more) :
    Encodes c (b :: rest.take more) := by
  unfold read at h
  dsimp only at h
  split at h
  · next hb =>
    obtain ⟨hc, rfl⟩ := point_of_readMore_zero h
    exact .one hb hc
  · split at h
    · cases h
    · split at h
      · obtain ⟨b₁, r₁, rfl, hlo, hhi, h⟩ := exists_byte_of_readMore_succ h
        obtain ⟨hc, rfl⟩ := point_of_readMore_zero h
        exact .two (by omega) ⟨hlo, hhi⟩ hc
      · split at h
        · obtain ⟨b₁, r₁, rfl, hlo₁, hhi₁, h⟩ := exists_byte_of_readMore_succ h
          obtain ⟨b₂, r₂, rfl, hlo₂, hhi₂, h⟩ := exists_byte_of_readMore_succ h
          obtain ⟨hc, rfl⟩ := point_of_readMore_zero h
          exact .three (by omega) (by split at hlo₁ <;> split at hhi₁ <;> omega)
            (fun heq ↦ by rwa [if_pos heq] at hlo₁)
            (fun heq ↦ by rwa [if_pos heq] at hhi₁) ⟨hlo₂, hhi₂⟩ hc
        · split at h
          · obtain ⟨b₁, r₁, rfl, hlo₁, hhi₁, h⟩ := exists_byte_of_readMore_succ h
            obtain ⟨b₂, r₂, rfl, hlo₂, hhi₂, h⟩ := exists_byte_of_readMore_succ h
            obtain ⟨b₃, r₃, rfl, hlo₃, hhi₃, h⟩ := exists_byte_of_readMore_succ h
            obtain ⟨hc, rfl⟩ := point_of_readMore_zero h
            exact .four (by omega) (by split at hlo₁ <;> split at hhi₁ <;> omega)
              (fun heq ↦ by rwa [if_pos heq] at hlo₁)
              (fun heq ↦ by rwa [if_pos heq] at hhi₁) ⟨hlo₂, hhi₂⟩ ⟨hlo₃, hhi₃⟩ hc
          · cases h

theorem Encodes.not_isSurrogate {c : CodePoint} {bytes : List UInt8} (h : Encodes c bytes) :
    ¬ c.IsSurrogate := by
  unfold CodePoint.IsSurrogate
  cases h <;> omega

theorem yields_decodeFrom (position : Nat) (bytes : List UInt8) :
    Yields (decodeFrom position bytes) Text.Scalar := by
  fun_induction decodeFrom position bytes with
  | case1 => exact .ok Text.scalar_nil
  | case2 position b rest c more h ih =>
      exact .map fun t ht ↦ (ih t ht).cons (encodes_of_read h).not_isSurrogate
  | case3 position b rest reason more h => exact .error _

end Utf8

namespace Utf16

theorem not_isSurrogate_ofPair {high low : CodePoint} (h : high.IsHigh ∧ low.IsLow) :
    ¬ (CodePoint.ofPair high low h).IsSurrogate := by
  intro hsurrogate
  have hle := hsurrogate.2
  have hge := CodePoint.le_value_ofPair h
  omega

theorem yields_decodeFrom (order : ByteOrder) (position : Nat) (bytes : List UInt8) :
    Yields (decodeFrom order position bytes) Text.Scalar := by
  fun_induction decodeFrom order position bytes with
  | case1 => exact .ok Text.scalar_nil
  | case2 | case3 | case5 | case6 => exact .error _
  | case4 position a b high _ hHigh c d rest low hLow ih =>
      exact .map fun t ht ↦ (ih t ht).cons (not_isSurrogate_ofPair ⟨hHigh, hLow⟩)
  | case7 position a b rest high hLow hHigh ih =>
      refine .map fun t ht ↦ (ih t ht).cons ?_
      unfold CodePoint.IsSurrogate CodePoint.IsLow CodePoint.IsHigh at *
      omega

end Utf16

namespace Charset

theorem yields_decodeAsciiFrom (position : Nat) (bytes : List UInt8) :
    Yields (decodeAsciiFrom position bytes) Text.Scalar := by
  fun_induction decodeAsciiFrom position bytes with
  | case1 => exact .ok Text.scalar_nil
  | case2 position b rest hb ih =>
      refine .map fun t ht ↦ (ih t ht).cons ?_
      -- a byte below 0x80 is the number of its character
      have hvalid : b.toNat.isValidChar := .inl (by omega)
      have hvalue : (Char.ofNat b.toNat).toNat = b.toNat := by
        rw [Char.ofNat, dif_pos hvalid]
        rfl
      unfold CodePoint.IsSurrogate
      rw [CodePoint.value_ofChar, hvalue]
      omega
  | case3 position b rest hb => exact .error _

theorem yields_decodeUtf8Signed (bytes : List UInt8) :
    Yields (decodeUtf8Signed bytes) Text.Scalar := by
  unfold decodeUtf8Signed
  split
  · exact .ok Text.scalar_nil
  · exact .ok Text.scalar_nil
  · exact Utf8.yields_decodeFrom 0 _
  · exact Utf8.yields_decodeFrom 0 _

theorem yields_decodeUtf16 (bytes : List UInt8) : Yields (decodeUtf16 bytes) Text.Scalar := by
  unfold decodeUtf16
  split
  · exact .mapError _ (Utf16.yields_decodeFrom .little 2 _)
  · exact .mapError _ (Utf16.yields_decodeFrom .big 2 _)
  · split
    · exact .error _
    · next t ht =>
      split
      · exact .ok (Utf16.yields_decodeFrom .little 0 _ t ht)
      · exact .error _

/-- No charset decodes bytes to surrogates. -/
theorem yields_decode (charset : Charset) (bytes : List UInt8) :
    Yields (charset.decode bytes) Text.Scalar := by
  cases charset with
  | utf8 => exact .mapError _ (Utf8.yields_decodeFrom 0 bytes)
  | utf8Signed => exact .mapError _ (yields_decodeUtf8Signed bytes)
  | ascii => exact .mapError _ (yields_decodeAsciiFrom 0 bytes)
  | utf16 => exact yields_decodeUtf16 bytes
  | latin1 =>
      refine .ok ?_
      intro c hc
      obtain ⟨b, -, rfl⟩ := List.mem_map.mp hc
      have hb := b.toNat_lt
      unfold CodePoint.IsSurrogate
      dsimp only
      omega

end Charset

def Codecs.Scalar (codecs : Codecs) : Prop :=
  ∀ name codec, codecs name = .ok codec → ∀ bytes, Yields (codec bytes) Text.Scalar

theorem Charset.scalar_codecs : Charset.codecs.Scalar := by
  intro name codec hcodec bytes
  unfold codecs at hcodec
  cases hknown : find? name with
  | none =>
      rw [hknown] at hcodec
      cases hcodec
  | some known =>
      rw [hknown] at hcodec
      cases hcodec
      exact yields_decode known bytes

/-- What is read from a file is what a codec makes of its bytes, with uniform line ends. -/
theorem FileSystem.exists_of_readText {fs : FileSystem} {codecs : Codecs} {charset : Text}
    {p : Path} {t : Text} (h : fs.readText codecs charset p = .ok t) :
    ∃ bytes codec decoded, fs.readBytes p = .ok bytes ∧ codecs charset = .ok codec ∧
      codec bytes = .ok decoded ∧ decoded.unifyNewlines = t := by
  unfold readText at h
  dsimp only at h
  split at h
  · cases h
  · split at h
    · cases h
    · obtain ⟨bytes, hbytes, h⟩ := bind_eq_ok_iff.mp h
      obtain ⟨codec, hcodec, h⟩ := bind_eq_ok_iff.mp h
      obtain ⟨decoded, hdecoded, rfl⟩ := map_eq_ok_iff.mp (mapError_eq_ok_iff.mp h)
      exact ⟨bytes, codec, decoded, hbytes, mapError_eq_ok_iff.mp hcodec, hdecoded, rfl⟩

/-- With codecs that decode no surrogates, the text of a file has none. -/
theorem FileSystem.yields_readText (fs : FileSystem) {codecs : Codecs} (hcodecs : codecs.Scalar)
    (charset : Text) (p : Path) : Yields (fs.readText codecs charset p) Text.Scalar := by
  intro t ht
  obtain ⟨bytes, codec, decoded, -, hcodec, hdecoded, rfl⟩ := exists_of_readText ht
  exact (hcodecs charset codec hcodec bytes decoded hdecoded).unifyNewlines

end CallAudit
