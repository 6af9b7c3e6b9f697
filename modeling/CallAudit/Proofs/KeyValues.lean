import CallAudit.Proofs.ConstantTexts
import Mathlib.Algebra.Group.Nat.Defs

/-!
# Keys when the program runs

What a key made of string literals and natural numbers evaluates to: `+` adds two numbers, and puts
texts together as soon as one of its operands is a text.  The resolver reads every `+` as putting
texts together.  The two agree exactly on the keys in which no `+` has two number literals as its
operands; in all others some digits of a sum stand where the resolver has the digits of its
operands, and these never are the same.
-/

namespace CallAudit

namespace Binary64

def toNat? : Binary64 → Option Nat
  | finite negative significand scale =>
      (natural? significand scale).filter fun n ↦ !negative || n == 0
  | _ => none

theorem canonical_of_toNat? {x : Binary64} {n : Nat} (h : x.toNat? = some n) :
    x.canonical = Text.ofNat n := by
  cases x with
  | nan => cases h
  | infinite negative => cases h
  | finite negative significand scale =>
      obtain ⟨hnatural, hsign⟩ := Option.filter_eq_some_iff.mp h
      rw [canonical, hnatural]
      cases negative with
      | false => rfl
      | true =>
          obtain rfl : n = 0 := by simpa using hsign
          rfl

end Binary64

theorem CodePoint.ofChar_injective : Function.Injective CodePoint.ofChar := by
  intro c d h
  exact Char.toNat_inj.mp (congrArg CodePoint.value h)

/-! ### Digits of sums -/

/-- Digits that are at least as many as a number has, and write no less than it. -/
structure Covers (digits : List Char) (n : Nat) : Prop where
  isDigit : ∀ c ∈ digits, c.isDigit = true
  ne_nil : digits ≠ []
  le_value : n ≤ Nat.ofDigitChars 10 digits 0
  lt_pow : n < 10 ^ digits.length

namespace Covers

variable {digits more : List Char} {a b : Nat}

theorem toDigits (n : Nat) : Covers (Nat.toDigits 10 n) n where
  isDigit := fun c hc ↦ Nat.isDigit_of_mem_toDigits (by decide) (by decide) hc
  ne_nil := Nat.toDigits_ne_nil
  le_value := Nat.le_of_eq Nat.ofDigitChars_ten_toDigits.symm
  lt_pow := (Nat.length_toDigits_le_iff (by decide) Nat.length_toDigits_pos).mp (Nat.le_refl _)

theorem length_le (h : Covers digits a) : (Nat.toDigits 10 a).length ≤ digits.length :=
  (Nat.length_toDigits_le_iff (by decide) (List.length_pos_of_ne_nil h.ne_nil)).mpr h.lt_pow

theorem value_append : Nat.ofDigitChars 10 (digits ++ more) 0 =
    10 ^ more.length * Nat.ofDigitChars 10 digits 0 + Nat.ofDigitChars 10 more 0 := by
  rw [Nat.ofDigitChars_append, Nat.ofDigitChars_eq_ofDigitChars_zero]

theorem ten_le_pow (h : Covers digits a) : 10 ≤ 10 ^ digits.length :=
  Nat.le_self_pow (Nat.ne_of_gt (List.length_pos_of_ne_nil h.ne_nil)) 10

/-- Written one after the other, two numbers are at least as long as their sum, and not less. -/
theorem append (h : Covers digits a) (h' : Covers more b) : Covers (digits ++ more) (a + b) where
  isDigit := List.forall_mem_append.mpr ⟨h.isDigit, h'.isDigit⟩
  ne_nil := by simp [h.ne_nil]
  le_value := by
    have hscaled :=
      Nat.le_mul_of_pos_left (Nat.ofDigitChars 10 digits 0)
        (Nat.lt_of_lt_of_le (by decide) h'.ten_le_pow)
    have hle := h.le_value
    have hle' := h'.le_value
    rw [value_append]
    omega
  lt_pow := by
    have hleft := Nat.mul_le_mul_left (10 ^ digits.length) h'.ten_le_pow
    have hright := Nat.mul_le_mul_right (10 ^ more.length) h.ten_le_pow
    calc a + b < 10 ^ digits.length + 10 ^ more.length := Nat.add_lt_add h.lt_pow h'.lt_pow
      _ ≤ 10 ^ digits.length * 10 ^ more.length := by omega
      _ = 10 ^ (digits ++ more).length := by rw [List.length_append, Nat.pow_add]

/-- The digits of two numbers one after the other are not those of their sum. -/
theorem append_ne (h : Covers digits a) (h' : Covers more b) :
    digits ++ more ≠ Nat.toDigits 10 (a + b) := by
  intro heq
  have hvalue :
      10 ^ more.length * Nat.ofDigitChars 10 digits 0 + Nat.ofDigitChars 10 more 0 = a + b := by
    rw [← value_append, heq, Nat.ofDigitChars_ten_toDigits]
  have hle := h.le_value
  have hle' := h'.le_value
  -- the digits in front count ten times as much or more, so they are zeros
  have hscaled := Nat.mul_le_mul_right (Nat.ofDigitChars 10 digits 0) h'.ten_le_pow
  have hzero : a = 0 := by omega
  -- then the sum is the second number, which needs no digits but its own
  rw [hzero, Nat.zero_add] at heq
  have hlength := h'.length_le
  rw [← heq, List.length_append] at hlength
  have hpos := List.length_pos_of_ne_nil h.ne_nil
  omega

theorem units_eq (h : Covers digits a) :
    Text.units (digits.map CodePoint.ofChar) = digits.map CodePoint.ofChar := by
  have hunit : ∀ c ∈ digits, (CodePoint.ofChar c).units = [CodePoint.ofChar c] := by
    intro c hc
    have hle : c.toNat ≤ 57 := (Char.isDigit_iff_toNat.mp (h.isDigit c hc)).2
    apply CodePoint.units_of_lt
    rw [CodePoint.value_ofChar]
    omega
  rw [Text.units, List.flatMap_map, List.flatMap_congr hunit, List.map_eq_flatMap]

end Covers

theorem Text.units_ofNat (n : Nat) : units (ofNat n) = ofNat n := (Covers.toDigits n).units_eq

namespace Node

variable {ι : Type}

/-! ### Values of keys -/

inductive KeyValue where
  | number (n : Nat)
  | text (t : Text)
  deriving DecidableEq

namespace KeyValue

def written : KeyValue → Text
  | number n => Text.ofNat n
  | text t => t

/-- Two numbers are added; as soon as one operand is a text, both are written one after the other.
Sums of numbers are exact below `2 ^ 53`, and no more is said of greater ones. -/
def plus? : KeyValue → KeyValue → Option KeyValue
  | number a, number b => if a + b < 2 ^ 53 then some (number (a + b)) else none
  | v, w => some (text (v.written ++ w.written))

def ofLiteral? (m : Mark ι) : Option KeyValue :=
  match m.kind with
  | .string => m.string?.map text
  | .number => ((m.number?.bind Binary64.toNat?).filter (· < 2 ^ 53)).map number
  | _ => none

end KeyValue

/-- What a sum of strings and natural numbers evaluates to; none if it has other summands, or a sum
of numbers that is too great. -/
def keyValue? : Node ι → Option KeyValue
  | .node m [left, right] =>
      if m.kind = .add then do (← keyValue? left).plus? (← keyValue? right)
      else KeyValue.ofLiteral? m
  | .node m _ => KeyValue.ofLiteral? m

/-- No `+` has two number literals as its operands. -/
def AddsNoNumbers (n : Node ι) : Prop :=
  ∀ s ∈ sums n, ∃ operand ∈ s.children, kind operand ≠ .number

instance (n : Node ι) : Decidable n.AddsNoNumbers := inferInstanceAs (Decidable (∀ s ∈ sums n, _))

theorem addsNoNumbers_of_ne {n : Node ι} (hadd : n.kind ≠ .add) : n.AddsNoNumbers := by
  rw [AddsNoNumbers, sums_of_ne hadd]
  exact List.forall_mem_nil _

theorem addsNoNumbers_of_add {m : Mark ι} {left right : Node ι} (hadd : m.kind = .add) :
    AddsNoNumbers (.node m [left, right]) ↔
      ¬ (kind left = .number ∧ kind right = .number) ∧ left.AddsNoNumbers ∧
        right.AddsNoNumbers := by
  simp only [AddsNoNumbers, sums_of_add hadd, List.forall_mem_cons, List.forall_mem_append,
    Tree.children_node, List.exists_mem_cons_iff, List.not_mem_nil, false_and, exists_false,
    or_false, not_and_or]

theorem keyValue?_of_add {m : Mark ι} {left right : Node ι} (hadd : m.kind = .add) {v : KeyValue} :
    keyValue? (.node m [left, right]) = some v ↔
      ∃ a b, left.keyValue? = some a ∧ right.keyValue? = some b ∧ a.plus? b = some v := by
  rw [keyValue?, if_pos hadd]
  simp [Option.bind_eq_some_iff]

theorem keyValue?_of_ne {n : Node ι} (hadd : n.kind ≠ .add) :
    n.keyValue? = KeyValue.ofLiteral? n.label := by
  unfold keyValue?
  split
  · exact if_neg hadd
  · rfl

theorem cases_of_ofLiteral? {n : Node ι} {v : KeyValue}
    (hv : KeyValue.ofLiteral? n.label = some v) :
    (n.kind = .string ∧ ∃ t, n.label.string? = some t ∧ v = .text t) ∨
      (n.kind = .number ∧ ∃ x k, n.label.number? = some x ∧ x.toNat? = some k ∧ v = .number k) := by
  unfold KeyValue.ofLiteral? at hv
  split at hv
  · next hkind =>
    obtain ⟨t, ht, rfl⟩ := Option.map_eq_some_iff.mp hv
    exact .inl ⟨hkind, t, ht, rfl⟩
  · next hkind =>
    obtain ⟨k, hk, rfl⟩ := Option.map_eq_some_iff.mp hv
    obtain ⟨x, hx, hnat⟩ := Option.bind_eq_some_iff.mp (Option.filter_eq_some_iff.mp hk).1
    exact .inr ⟨hkind, x, k, hx, hnat, rfl⟩
  · cases hv

theorem ne_add_of_ofLiteral? {n : Node ι} {v : KeyValue}
    (hv : KeyValue.ofLiteral? n.label = some v) : n.kind ≠ .add := by
  rcases cases_of_ofLiteral? hv with ⟨hkind, -⟩ | ⟨hkind, -⟩ <;> simp [hkind]

theorem sumShaped_of_ofLiteral? {n : Node ι} {v : KeyValue}
    (hv : KeyValue.ofLiteral? n.label = some v) :
    n.SumShaped ∧ ∀ c ∈ summands n, IsLiteral c := by
  have hadd := ne_add_of_ofLiteral? hv
  rw [summands_of_ne hadd, List.forall_mem_singleton]
  rcases cases_of_ofLiteral? hv with ⟨hkind, t, ht, -⟩ | ⟨hkind, x, -, hx, -⟩
  · exact ⟨.of_ne hadd (by simp [ht]) (by simp [hkind]), .inl hkind⟩
  · exact ⟨.of_ne hadd (by simp [hkind]) (by simp [hx]), .inr hkind⟩

/-- Where there is a value, the sum has the shape that the evaluator needs. -/
theorem sumShaped_of_keyValue? {n : Node ι} {v : KeyValue} (hv : n.keyValue? = some v) :
    n.SumShaped ∧ ∀ c ∈ summands n, IsLiteral c := by
  fun_induction keyValue? n generalizing v with
  | case1 m left right hadd ihleft ihright =>
      obtain ⟨a, ha, hv⟩ := Option.bind_eq_some_iff.mp hv
      obtain ⟨b, hb, -⟩ := Option.bind_eq_some_iff.mp hv
      obtain ⟨hleft, hleftAll⟩ := ihleft ha
      obtain ⟨hright, hrightAll⟩ := ihright hb
      rw [summands_of_add hadd]
      exact ⟨.of_add hadd hleft hright, List.forall_mem_append.mpr ⟨hleftAll, hrightAll⟩⟩
  | case2 m left right hadd => exact sumShaped_of_ofLiteral? (n := .node m [left, right]) hv
  | case3 m children hpair => exact sumShaped_of_ofLiteral? (n := .node m children) hv

/-! ### Values and texts -/

theorem written_of_ofLiteral? {n : Node ι} {v : KeyValue}
    (hv : KeyValue.ofLiteral? n.label = some v) :
    v.written = n.writtenText := by
  unfold writtenText
  rcases cases_of_ofLiteral? hv with ⟨hkind, t, ht, rfl⟩ | ⟨hkind, x, k, hx, hk, rfl⟩
  · rw [hkind, ht]
    rfl
  · rw [hkind, hx]
    exact (Binary64.canonical_of_toNat? hk).symm

theorem kind_eq_number_iff {n : Node ι} {v : KeyValue} (hadd : n.kind ≠ .add)
    (hv : n.keyValue? = some v) :
    n.kind = .number ↔ ∃ k, v = .number k := by
  rw [keyValue?_of_ne hadd] at hv
  rcases cases_of_ofLiteral? hv with ⟨hkind, t, -, rfl⟩ | ⟨hkind, x, k, -, -, rfl⟩
  · simp [hkind]
  · simp [hkind]

namespace KeyValue

/-- Two numbers are added, and in all other cases texts are put together. -/
theorem plus?_cases {a b v : KeyValue} (h : a.plus? b = some v) :
    (∃ k l, a = number k ∧ b = number l ∧ v = number (k + l)) ∨
      (¬ ((∃ k, a = number k) ∧ ∃ l, b = number l) ∧ v = text (a.written ++ b.written)) := by
  unfold plus? at h
  split at h
  · next k l =>
    split at h
    · exact .inl ⟨k, l, rfl, rfl, (Option.some.inj h).symm⟩
    · cases h
  · next hnot =>
    refine .inr ⟨?_, (Option.some.inj h).symm⟩
    rintro ⟨⟨k, rfl⟩, l, rfl⟩
    exact hnot k l rfl rfl

end KeyValue

/-- Where no numbers are added, a sum is the texts of its summands. -/
theorem AddsNoNumbers.written_eq {n : Node ι} (hsums : n.AddsNoNumbers) (h : n.SumShaped)
    {v : KeyValue} (hv : n.keyValue? = some v) :
    v.written = sumText n ∧ (n.kind = .add → ∃ t, v = .text t) := by
  induction h using SumShaped.induction generalizing v with
  | single n h hadd =>
      rw [keyValue?_of_ne hadd] at hv
      exact ⟨(written_of_ofLiteral? hv).trans (sumText_of_ne hadd).symm,
        fun hkind ↦ absurd hkind hadd⟩
  | sum m left right h hadd ihleft ihright =>
      obtain ⟨hoperands, hleft, hright⟩ := (addsNoNumbers_of_add hadd).mp hsums
      obtain ⟨a, b, ha, hb, hplus⟩ := (keyValue?_of_add hadd).mp hv
      obtain ⟨haText, haAdd⟩ := ihleft hleft ha
      obtain ⟨hbText, hbAdd⟩ := ihright hright hb
      rcases KeyValue.plus?_cases hplus with ⟨k, l, rfl, rfl, -⟩ | ⟨-, rfl⟩
      · -- a sum below is a text, so that an operand that is a number is a number literal
        have hnumber {c : Node ι} {k : Nat} (hc : c.keyValue? = some (.number k))
            (hsum : kind c = .add → ∃ t, KeyValue.number k = .text t) : kind c = .number := by
          refine (kind_eq_number_iff ?_ hc).mpr ⟨k, rfl⟩
          intro hkind
          obtain ⟨t, ht⟩ := hsum hkind
          cases ht
        exact (hoperands ⟨hnumber ha haAdd, hnumber hb hbAdd⟩).elim
      · refine ⟨?_, fun _ ↦ ⟨_, rfl⟩⟩
        rw [sumText_of_add hadd, ← haText, ← hbText]
        rfl

/-- The texts of the summands of a number are digits, no fewer than it has. -/
theorem SumShaped.exists_covers {n : Node ι} (h : n.SumShaped) {k : Nat}
    (hv : n.keyValue? = some (.number k)) :
    ∃ digits, sumText n = digits.map CodePoint.ofChar ∧ Covers digits k := by
  induction h using SumShaped.induction generalizing k with
  | single n h hadd =>
      rw [keyValue?_of_ne hadd] at hv
      rw [sumText_of_ne hadd, ← written_of_ofLiteral? hv]
      exact ⟨Nat.toDigits 10 k, rfl, .toDigits k⟩
  | sum m left right h hadd ihleft ihright =>
      obtain ⟨a, b, ha, hb, hplus⟩ := (keyValue?_of_add hadd).mp hv
      rcases KeyValue.plus?_cases hplus with ⟨i, j, rfl, rfl, hsum⟩ | ⟨-, htext⟩
      · obtain rfl := KeyValue.number.inj hsum
        obtain ⟨digits, hdigits, hcovers⟩ := ihleft ha
        obtain ⟨more, hmore, hcovers'⟩ := ihright hb
        refine ⟨digits ++ more, ?_, hcovers.append hcovers'⟩
        rw [sumText_of_add hadd, hdigits, hmore, List.map_append]
      · cases htext

/-- A value is no longer than the texts of the summands, and is these texts only if no numbers are
added. -/
theorem SumShaped.length_units_le {n : Node ι} (h : n.SumShaped) {v : KeyValue}
    (hv : n.keyValue? = some v) :
    v.written.units.length ≤ (sumText n).units.length ∧
      (v.written.units = (sumText n).units → n.AddsNoNumbers) := by
  induction h using SumShaped.induction generalizing v with
  | single n h hadd =>
      rw [keyValue?_of_ne hadd] at hv
      rw [written_of_ofLiteral? hv, sumText_of_ne hadd]
      exact ⟨Nat.le_refl _, fun _ ↦ addsNoNumbers_of_ne hadd⟩
  | sum m left right h hadd ihleft ihright =>
      obtain ⟨a, b, ha, hb, hplus⟩ := (keyValue?_of_add hadd).mp hv
      rcases KeyValue.plus?_cases hplus with ⟨k, l, rfl, rfl, rfl⟩ | ⟨hnumbers, rfl⟩
      · obtain ⟨digits, hdigits, hcovers⟩ := (h.of_left hadd).exists_covers ha
        obtain ⟨more, hmore, hcovers'⟩ := (h.of_right hadd).exists_covers hb
        have hboth := hcovers.append hcovers'
        rw [sumText_of_add hadd, hdigits, hmore, ← List.map_append, hboth.units_eq,
          KeyValue.written, Text.units_ofNat]
        constructor
        · rw [Text.ofNat, List.length_map, List.length_map]
          exact hboth.length_le
        · intro heq
          have hsame := List.map_injective_iff.mpr CodePoint.ofChar_injective heq
          exact (hcovers.append_ne hcovers' hsame.symm).elim
      · obtain ⟨hleft, hleftEq⟩ := ihleft ha
        obtain ⟨hright, hrightEq⟩ := ihright hb
        rw [sumText_of_add hadd, KeyValue.written, Text.units_append, Text.units_append]
        constructor
        · rw [List.length_append, List.length_append]
          exact Nat.add_le_add hleft hright
        · intro heq
          -- neither half is longer than its counterpart, so that the halves are equal one by one
          have hlength := congrArg List.length heq
          rw [List.length_append, List.length_append] at hlength
          obtain ⟨heqLeft, heqRight⟩ := List.append_inj heq (by omega)
          refine (addsNoNumbers_of_add hadd).mpr ⟨?_, hleftEq heqLeft, hrightEq heqRight⟩
          rintro ⟨hleftKind, hrightKind⟩
          apply hnumbers
          exact ⟨(kind_eq_number_iff (by simp [hleftKind]) ha).mp hleftKind,
            (kind_eq_number_iff (by simp [hrightKind]) hb).mp hrightKind⟩

/-- The name that is read from a computed key is the text that the key evaluates to exactly if no
`+` in it has two number literals as its operands; and for such a key there always is a name. -/
theorem computedKey_eq_value_iff (n object key : Node ι) (hkind : n.kind = .getElem)
    (hchildren : n.children = [object, key]) (hkey : kind key = .string ∨ kind key = .add)
    (v : KeyValue) (hv : key.keyValue? = some v) :
    (∀ t, computedKey n = .ok (some t) → ((∃ s, v = .text s ∧ s.joinPairs = t) ↔
      key.AddsNoNumbers)) ∧
      (key.AddsNoNumbers → ∃ t, computedKey n = .ok (some t)) := by
  obtain ⟨hshaped, hall⟩ := sumShaped_of_keyValue? hv
  have hname : computedKey n = .ok (some (sumText key).joinPairs) := by
    rw [computedKey, hkind, hchildren]
    dsimp only
    rw [if_pos hkey, hshaped.constantText_eq hall]
  refine ⟨?_, fun _ ↦ ⟨_, hname⟩⟩
  intro t ht
  rw [hname] at ht
  obtain rfl := Option.some.inj (Except.ok.inj ht)
  constructor
  · rintro ⟨s, rfl, hs⟩
    exact (hshaped.length_units_le hv).2 (Text.joinPairs_eq_joinPairs_iff.mp hs)
  · intro hsums
    obtain ⟨hwritten, hadd⟩ := hsums.written_eq hshaped hv
    obtain ⟨s, rfl⟩ : ∃ s, v = .text s := by
      rcases hkey with hstring | hsum
      · rw [keyValue?_of_ne (by simp [hstring])] at hv
        rcases cases_of_ofLiteral? hv with ⟨-, s, -, hs⟩ | ⟨hnumber, -⟩
        · exact ⟨s, hs⟩
        · simp [hstring] at hnumber
      · exact hadd hsum
    exact ⟨s, rfl, congrArg Text.joinPairs hwritten⟩

namespace Sample

def access (key : Node Unit) : Node Unit :=
  .node (mark .getElem none none) [.node (mark .name (some "o") none) [], key]

/-- The key `'a' + 1 + 2`. -/
def textFirst : Node Unit := add (add (text "a") (number 1)) (number 2)

/-- The key `1 + 2 + 'a'`. -/
def numbersFirst : Node Unit := add (add (number 1) (number 2)) (text "a")

end Sample

open Sample in
theorem computedKey_eq_value_iff_textFirst :
    textFirst.keyValue? = some (.text "a12") ∧ textFirst.AddsNoNumbers ∧
      computedKey (access textFirst) = .ok (some (Text.joinPairs "a12")) := by
  have hv : textFirst.keyValue? = some (.text "a12") := by decide +kernel
  have hsums : textFirst.AddsNoNumbers := by decide
  obtain ⟨hagree, hname⟩ :=
    computedKey_eq_value_iff (access textFirst) _ textFirst rfl rfl (.inr rfl) _ hv
  obtain ⟨t, ht⟩ := hname hsums
  obtain ⟨s, hs, rfl⟩ := (hagree t ht).mpr hsums
  obtain rfl := KeyValue.text.inj hs
  exact ⟨hv, hsums, ht⟩

open Sample in
/-- Numbers are not added: `o[1 + 2 + 'a']` is taken for an access of `12a`, and `o[1 + 2]` for one
of `12`. -/
theorem computedKey_of_number_sums :
    (numbersFirst.keyValue? = some (.text "3a") ∧
      computedKey (access numbersFirst) = .ok (some "12a")) ∧
      keyValue? (add (number 1) (number 2)) = some (.number 3) ∧
        computedKey (access (add (number 1) (number 2))) = .ok (some "12") := by
  decide +kernel

end Node

end CallAudit
