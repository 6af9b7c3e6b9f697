import CallAudit.Proofs.Subtrees
import CallAudit.Proofs.Success
import CallAudit.Proofs.Surrogates
import CallAudit.Resolve.Constant
import Mathlib.Data.List.Basic

/-!
# Sums of literals

A sum is a tree of `add` nodes with other expressions at its ends.  The evaluator goes down the left
operands with what is known of the right ones in its hands, and joins the surrogate pairs of each
nested sum on the way.  What comes out is the texts of the ends from left to right with all pairs
joined, so that the association of the sum does not matter: early joins change no code unit, and the
code units decide what the last join makes of them.
-/

namespace CallAudit

namespace Node

variable {ι : Type}

/-- The `add` nodes that make up a sum, from the outermost down. -/
def sums : Node ι → List (Node ι)
  | .node m [left, right] =>
      if m.kind = .add then .node m [left, right] :: (sums left ++ sums right) else []
  | .node m children => if m.kind = .add then [.node m children] else []

/-- The expressions that a sum adds up, from left to right. -/
def summands : Node ι → List (Node ι)
  | .node m [left, right] =>
      if m.kind = .add then summands left ++ summands right else [.node m [left, right]]
  | .node m children => if m.kind = .add then [] else [.node m children]

def IsLiteral (n : Node ι) : Prop := n.kind = .string ∨ n.kind = .number

instance (n : Node ι) : Decidable n.IsLiteral := inferInstanceAs (Decidable (_ ∨ _))

def writtenText (n : Node ι) : Text :=
  match n.kind with
  | .string => n.label.string?.getD []
  | .number => (n.label.number?.map Binary64.canonical).getD []
  | _ => []

def sumText (n : Node ι) : Text := (summands n).flatMap writtenText

/-- Every sum has two operands, and every string and number among the summands has its payload. -/
structure SumShaped (n : Node ι) : Prop where
  operands : ∀ s ∈ sums n, s.children.length = 2
  texts : ∀ c ∈ summands n, kind c = .string → c.label.string?.isSome = true
  numbers : ∀ c ∈ summands n, kind c = .number → c.label.number?.isSome = true

section

variable {m : Mark ι} {left right : Node ι}

theorem sums_of_add (hadd : m.kind = .add) :
    sums (.node m [left, right]) = .node m [left, right] :: (sums left ++ sums right) := by
  rw [sums, if_pos hadd]

theorem summands_of_add (hadd : m.kind = .add) :
    summands (.node m [left, right]) = summands left ++ summands right := by
  rw [summands, if_pos hadd]

theorem sumText_of_add (hadd : m.kind = .add) :
    sumText (.node m [left, right]) = sumText left ++ sumText right := by
  rw [sumText, summands_of_add hadd, List.flatMap_append]
  rfl

theorem sums_of_ne {n : Node ι} (hadd : n.kind ≠ .add) : sums n = [] := by
  unfold sums
  split
  · exact if_neg hadd
  · exact if_neg hadd

theorem summands_of_ne {n : Node ι} (hadd : n.kind ≠ .add) : summands n = [n] := by
  unfold summands
  split
  · exact if_neg hadd
  · exact if_neg hadd

theorem sumText_of_ne {n : Node ι} (hadd : n.kind ≠ .add) : sumText n = n.writtenText := by
  rw [sumText, summands_of_ne hadd, List.flatMap_singleton]

theorem SumShaped.mono {s n : Node ι} (h : n.SumShaped) (hsums : sums s ⊆ sums n)
    (hsummands : summands s ⊆ summands n) :
    s.SumShaped :=
  ⟨fun t ht ↦ h.operands t (hsums ht), fun c hc ↦ h.texts c (hsummands hc),
    fun c hc ↦ h.numbers c (hsummands hc)⟩

theorem SumShaped.of_left (h : SumShaped (.node m [left, right])) (hadd : m.kind = .add) :
    SumShaped left := by
  apply h.mono
  · rw [sums_of_add hadd]
    exact List.subset_cons_of_subset _ (List.subset_append_left _ _)
  · rw [summands_of_add hadd]
    exact List.subset_append_left _ _

theorem SumShaped.of_right (h : SumShaped (.node m [left, right])) (hadd : m.kind = .add) :
    SumShaped right := by
  apply h.mono
  · rw [sums_of_add hadd]
    exact List.subset_cons_of_subset _ (List.subset_append_right _ _)
  · rw [summands_of_add hadd]
    exact List.subset_append_right _ _

theorem SumShaped.of_add (hadd : m.kind = .add) (hleft : left.SumShaped)
    (hright : right.SumShaped) :
    SumShaped (.node m [left, right]) := by
  constructor
  · rw [sums_of_add hadd]
    exact List.forall_mem_cons.mpr ⟨rfl, List.forall_mem_append.mpr
      ⟨hleft.operands, hright.operands⟩⟩
  · rw [summands_of_add hadd]
    exact List.forall_mem_append.mpr ⟨hleft.texts, hright.texts⟩
  · rw [summands_of_add hadd]
    exact List.forall_mem_append.mpr ⟨hleft.numbers, hright.numbers⟩

theorem SumShaped.of_ne {n : Node ι} (hadd : n.kind ≠ .add)
    (htext : n.kind = .string → n.label.string?.isSome = true)
    (hnumber : n.kind = .number → n.label.number?.isSome = true) : n.SumShaped := by
  constructor
  · rw [sums_of_ne hadd]
    exact List.forall_mem_nil _
  · rw [summands_of_ne hadd]
    exact List.forall_mem_singleton.mpr htext
  · rw [summands_of_ne hadd]
    exact List.forall_mem_singleton.mpr hnumber

theorem SumShaped.exists_operands {n : Node ι} (h : n.SumShaped) (hadd : n.kind = .add) :
    ∃ left right, n.children = [left, right] := by
  have hmem : n ∈ sums n := by
    unfold sums
    split
    · exact (if_pos hadd).symm ▸ List.mem_cons_self
    · exact (if_pos hadd).symm ▸ List.mem_cons_self
  exact List.length_eq_two.mp (h.operands n hmem)

/-- Induction over sums: an expression that is no sum, and a sum of two. -/
@[elab_as_elim]
theorem SumShaped.induction {motive : (n : Node ι) → n.SumShaped → Prop}
    (single : ∀ n (h : n.SumShaped), n.kind ≠ .add → motive n h)
    (sum : ∀ m left right (h : SumShaped (.node m [left, right])) (hadd : m.kind = .add),
      motive left (h.of_left hadd) → motive right (h.of_right hadd) →
        motive (.node m [left, right]) h)
    {n : Node ι} (h : n.SumShaped) : motive n h := by
  induction n using Tree.induction with
  | node m children ih =>
      by_cases hadd : m.kind = .add
      · obtain ⟨left, right, hpair⟩ := h.exists_operands hadd
        rw [Tree.children_node] at hpair
        subst hpair
        apply sum m left right h hadd
        · exact ih left (by simp) (h.of_left hadd)
        · exact ih right (by simp) (h.of_right hadd)
      · exact single _ h hadd

end

/-! ### Single literals -/

/-- A literal of the right shape has its payload, which is the text it is written with. -/
theorem SumShaped.literalText_eq {n : Node ι} (h : n.SumShaped) (hadd : n.kind ≠ .add)
    (hliteral : n.IsLiteral) :
    literalText n = .ok (some n.writtenText) := by
  have hmem : n ∈ summands n := by simp [summands_of_ne hadd]
  unfold literalText writtenText
  rcases hliteral with hkind | hkind
  · obtain ⟨s, hs⟩ := Option.isSome_iff_exists.mp (h.texts n hmem hkind)
    simp [hkind, string, hs, Except.map]
  · obtain ⟨x, hx⟩ := Option.isSome_iff_exists.mp (h.numbers n hmem hkind)
    simp [hkind, hx]

theorem literalText_eq_none {n : Node ι} (hliteral : ¬ n.IsLiteral) : literalText n = .ok none := by
  unfold literalText
  split
  · next hkind => exact absurd (.inl hkind) hliteral
  · next hkind => exact absurd (.inr hkind) hliteral
  · rfl

theorem constantOnto_of_ne {n : Node ι} (hadd : n.kind ≠ .add) (after : Text) :
    constantOnto n after = (do pure ((← literalText n).map (· ++ after))) := by
  unfold constantOnto
  split
  · exact if_neg hadd
  · exact if_neg hadd

/-! ### Sums -/

theorem constantOnto_of_add {m : Mark ι} {left right : Node ι} (hadd : m.kind = .add)
    (after : Text) :
    constantOnto (.node m [left, right]) after = (do
      match ← constantOnto right [] with
      | none => pure none
      | some t => constantOnto left ((if kind right = .add then t.joinPairs else t) ++ after)) := by
  rw [constantOnto]
  exact if_pos hadd

/-- What is put in front of `after` has the code units of the texts of the summands. -/
theorem SumShaped.exists_constantOnto_eq {n : Node ι} (h : n.SumShaped)
    (hall : ∀ c ∈ summands n, IsLiteral c) (after : Text) :
    ∃ t, constantOnto n after = .ok (some (t ++ after)) ∧ t.units = (sumText n).units := by
  induction h using SumShaped.induction generalizing after with
  | single n h hadd =>
      rw [summands_of_ne hadd] at hall
      rw [constantOnto_of_ne hadd, h.literalText_eq hadd (hall n List.mem_cons_self),
        sumText_of_ne hadd]
      exact ⟨_, rfl, rfl⟩
  | sum m left right h hadd ihleft ihright =>
      rw [summands_of_add hadd, List.forall_mem_append] at hall
      obtain ⟨t, ht, hunits⟩ := ihright hall.2 []
      rw [List.append_nil] at ht
      -- joining the pairs of the right operand early leaves its code units alone
      have hjoined : Text.units (if kind right = .add then t.joinPairs else t) = t.units := by
        split
        · exact Text.units_joinPairs t
        · rfl
      obtain ⟨s, hs, hsunits⟩ :=
        ihleft hall.1 ((if kind right = .add then t.joinPairs else t) ++ after)
      refine ⟨s ++ (if kind right = .add then t.joinPairs else t), ?_, ?_⟩
      · rw [constantOnto_of_add hadd, ht, ok_bind, List.append_assoc]
        exact hs
      · rw [sumText_of_add hadd, Text.units_append, Text.units_append, hsunits, hjoined, hunits]

/-- The evaluation stops at the last summand that is no literal. -/
theorem SumShaped.constantOnto_eq_none {n : Node ι} (h : n.SumShaped)
    (hnot : ¬ ∀ c ∈ summands n, IsLiteral c) (after : Text) : constantOnto n after = .ok none := by
  induction h using SumShaped.induction generalizing after with
  | single n h hadd =>
      rw [summands_of_ne hadd, List.forall_mem_singleton] at hnot
      rw [constantOnto_of_ne hadd, literalText_eq_none hnot]
      rfl
  | sum m left right h hadd ihleft ihright =>
      rw [summands_of_add hadd, List.forall_mem_append] at hnot
      rw [constantOnto_of_add hadd]
      by_cases hright : ∀ c ∈ summands right, IsLiteral c
      · obtain ⟨t, ht, -⟩ := (h.of_right hadd).exists_constantOnto_eq hright []
        rw [ht, ok_bind]
        apply ihleft
        intro hleft
        exact hnot ⟨hleft, hright⟩
      · rw [ihright hright]
        rfl

/-- The pairs that were joined on the way are joined once more; the code units are those of the
summands. -/
theorem SumShaped.constantText_eq {n : Node ι} (h : n.SumShaped)
    (hall : ∀ c ∈ summands n, IsLiteral c) :
    constantText n = .ok (some (sumText n).joinPairs) := by
  obtain ⟨t, ht, hunits⟩ := h.exists_constantOnto_eq hall []
  rw [constantText, ht, ok_bind, List.append_nil, Option.map_some,
    Text.joinPairs_eq_joinPairs_iff.mpr hunits]
  rfl

theorem SumShaped.constantText_eq_none {n : Node ι} (h : n.SumShaped)
    (hnot : ¬ ∀ c ∈ summands n, IsLiteral c) :
    constantText n = .ok none := by
  rw [constantText, h.constantOnto_eq_none hnot]
  rfl

/-- The constant text of a sum: there is one exactly if all summands are literals, and it is their
texts from left to right with the surrogate pairs joined.  Hence it does not depend on how the sum
is associated. -/
theorem constantText_eq_summands (n : Node ι) (h : n.SumShaped) :
    constantText n =
        .ok (if ∀ c ∈ summands n, IsLiteral c then
          some (Text.joinPairs ((summands n).flatMap writtenText)) else none) ∧
      ∀ n' : Node ι, n'.SumShaped → summands n' = summands n →
        constantText n' = constantText n := by
  have hvalue {n : Node ι} (h : n.SumShaped) :
      constantText n =
        .ok (if ∀ c ∈ summands n, IsLiteral c then
          some (Text.joinPairs ((summands n).flatMap writtenText)) else none) := by
    split
    · next hall => exact h.constantText_eq hall
    · next hnot => exact h.constantText_eq_none hnot
  refine ⟨hvalue h, fun n' h' heq ↦ ?_⟩
  rw [hvalue h, hvalue h', heq]

namespace Sample

def mark (kind : Kind) (string? : Option Text) (number? : Option Binary64) : Mark Unit :=
  ⟨kind, "t.js", 1, string?, number?, none, ()⟩

def text (t : Text) : Node Unit := .node (mark .string (some t) none) []

def number (n : Nat) : Node Unit := .node (mark .number none (Binary64.ofNat? n)) []

def add (left right : Node Unit) : Node Unit := .node (mark .add none none) [left, right]

def high : Node Unit := text [⟨0xD83D, by decide⟩]

def low : Node Unit := text [⟨0xDE00, by decide⟩]

end Sample

open Sample in
theorem constantText_eq_summands_dividedPair :
    SumShaped (add high (add low (number 1))) ∧ SumShaped (add (add high low) (number 1)) ∧
      constantText (add high (add low (number 1))) = .ok (some [⟨0x1F600, by decide⟩, '1']) ∧
      constantText (add (add high low) (number 1)) =
        constantText (add high (add low (number 1))) := by
  have hright : SumShaped (add high (add low (number 1))) :=
    ⟨by decide, by decide, by decide +kernel⟩
  have hleft : SumShaped (add (add high low) (number 1)) :=
    ⟨by decide, by decide, by decide +kernel⟩
  obtain ⟨hvalue, hassoc⟩ := constantText_eq_summands _ hright
  refine ⟨hright, hleft, hvalue.trans ?_, hassoc _ hleft rfl⟩
  decide +kernel

end Node

end CallAudit
