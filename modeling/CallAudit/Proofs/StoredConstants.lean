import CallAudit.Proofs.ConstantTexts
import CallAudit.Resolve.Target

/-!
# Constants that are stored

What an assignment makes of a value that is a constant.  A constant is no name and nothing that can
be called, so that neither a name nor the key it is stored under is taken from it.  One rule is
left, that for values stored under a computed key: it asks only whether the last part of the value
is a string, and so the right operand of a sum counts like the property of an access.
-/

namespace CallAudit

namespace Node

variable {ι : Type}

theorem constantOnto_of_constantText {n : Node ι} {t : Text} (h : constantText n = .ok (some t)) :
    ∃ u, constantOnto n [] = .ok (some u) := by
  obtain ⟨u?, hu, ht⟩ := bind_eq_ok_iff.mp h
  obtain ⟨u, rfl, -⟩ := Option.map_eq_some_iff.mp (Except.ok.inj ht)
  exact ⟨u, hu⟩

theorem isLiteral_of_constantOnto {n : Node ι} (hadd : n.kind ≠ .add) {after u : Text}
    (h : constantOnto n after = .ok (some u)) : n.IsLiteral := by
  by_contra hliteral
  rw [constantOnto_of_ne hadd, literalText_eq_none hliteral] at h
  cases h

theorem exists_string_of_constantOnto {n : Node ι} (hkind : n.kind = .string) {after u : Text}
    (h : constantOnto n after = .ok (some u)) : ∃ s, n.label.string? = some s := by
  rw [constantOnto_of_ne (by simp [hkind])] at h
  obtain ⟨v?, hv, -⟩ := bind_eq_ok_iff.mp h
  simp only [literalText, hkind, string] at hv
  cases hs : n.label.string? with
  | none =>
      rw [hs] at hv
      cases hv
  | some s => exact ⟨s, rfl⟩

/-- The right operand of a sum is evaluated first, so that a string there has its text. -/
theorem exists_string_of_operand {n left right : Node ι} (hadd : n.kind = .add)
    (hoperands : n.children = [left, right]) (hstring : kind right = .string) {after u : Text}
    (h : constantOnto n after = .ok (some u)) :
    ∃ s, right.label.string? = some s := by
  obtain ⟨m, children⟩ := n
  rw [Tree.children_node] at hoperands
  subst hoperands
  have hadd : m.kind = .add := hadd
  rw [constantOnto_of_add hadd] at h
  obtain ⟨v?, hv, h⟩ := bind_eq_ok_iff.mp h
  cases v? with
  | none => cases h
  | some v => exact exists_string_of_constantOnto hstring hv

/-- A constant is a literal or a sum, hence neither a name nor anything that can be called. -/
theorem kind_of_constantText {n : Node ι} {t : Text} (h : constantText n = .ok (some t)) :
    n.kind ≠ .name ∧ n.kind.isCallable = false := by
  obtain ⟨u, hu⟩ := constantOnto_of_constantText h
  by_cases hadd : n.kind = .add
  · simp [hadd, Kind.isCallable]
  · rcases isLiteral_of_constantOnto hadd hu with hkind | hkind
    · simp [hkind, Kind.isCallable]
    · simp [hkind, Kind.isCallable]

def EndsInStoredString (target value : Node ι) : Prop :=
  kind target = .getElem ∧ ∃ last, value.children.getLast? = some last ∧ kind last = .string

/-- A value that is no name gives a name only by the rule for computed keys. -/
theorem valueNames_of_not_endsInStoredString {target value : Node ι} (hname : kind value ≠ .name)
    (h : ¬ EndsInStoredString target value) : valueNames target value = .ok [] := by
  rw [valueNames, if_neg hname]
  cases hlast : value.children.getLast? with
  | none => rfl
  | some last => exact if_neg fun hstored ↦ h ⟨hstored.1, last, hlast, hstored.2⟩

theorem valueNames_of_getLast? {target value last : Node ι} (hname : kind value ≠ .name)
    (htarget : kind target = .getElem) (hlast : value.children.getLast? = some last)
    (hstring : kind last = .string) :
    valueNames target value = (string last).map fun s ↦ [s] := by
  rw [valueNames, if_neg hname, hlast]
  exact if_pos ⟨htarget, hstring⟩

/-- The key under which a constant is stored is not asked for, whatever the target is. -/
theorem assignmentTargets_eq_valueNames {n target value : Node ι} {between : List (Node ι)}
    (hassign : n.kind.isAssignment = true) (hchildren : n.children = target :: (between ++ [value]))
    {t : Text} (hconstant : constantText value = .ok (some t)) :
    assignmentTargets n = (valueNames target value).map (targetsAt n.label) := by
  have hkeys : keyNames target value = .ok [] := by
    rw [keyNames, (kind_of_constantText hconstant).2]
    simp
  obtain ⟨second, rest, hrest⟩ : ∃ second rest, between ++ [value] = second :: rest :=
    List.exists_cons_of_ne_nil (by simp)
  have hvalue : (second :: rest).getLast (by simp) = value := by
    simp only [← hrest, List.getLast_concat]
  rw [hrest] at hchildren
  simp only [assignmentTargets, hassign, if_true, hchildren, hvalue, hkeys]
  cases valueNames target value with
  | error e => rfl
  | ok names => simp [Except.map]

/-- Nothing is made callable by storing a constant, with one exception: a value that ends in a
string and is stored under a computed key.  For a sum this is the case if its right operand is a
string, and then that string is the one target. -/
theorem assignmentTargets_of_constant (n target value : Node ι) (between : List (Node ι)) (t : Text)
    (hassign : n.kind.isAssignment = true) (hchildren : n.children = target :: (between ++ [value]))
    (hconstant : constantText value = .ok (some t)) :
    (assignmentTargets n = .ok [] ↔ ¬ EndsInStoredString target value) ∧
      (∀ left right, kind target = .getElem → kind value = .add → value.children = [left, right] →
        kind right = .string →
          ∃ s, right.label.string? = some s ∧ assignmentTargets n = .ok [⟨s, n.label⟩]) := by
  have hname := (kind_of_constantText hconstant).1
  have htargets := assignmentTargets_eq_valueNames hassign hchildren hconstant
  refine ⟨⟨?_, ?_⟩, ?_⟩
  · rintro hnil ⟨htarget, last, hlast, hstring⟩
    rw [htargets, valueNames_of_getLast? hname htarget hlast hstring] at hnil
    obtain ⟨names, hnames, hnil⟩ := map_eq_ok_iff.mp hnil
    obtain ⟨s, -, rfl⟩ := map_eq_ok_iff.mp hnames
    cases hnil
  · intro h
    rw [htargets, valueNames_of_not_endsInStoredString hname h]
    rfl
  · intro left right htarget hadd hoperands hstring
    obtain ⟨u, hu⟩ := constantOnto_of_constantText hconstant
    obtain ⟨s, hs⟩ := exists_string_of_operand hadd hoperands hstring hu
    have hlast : value.children.getLast? = some right := by simp [hoperands]
    refine ⟨s, hs, ?_⟩
    rw [htargets, valueNames_of_getLast? hname htarget hlast hstring, string, hs]
    rfl

namespace Sample

def name (t : Text) : Node Unit := .node (mark .name (some t) none) []

/-- `table["k"] = value`. -/
def store (value : Node Unit) : Node Unit :=
  .node (mark (.assign .plain) none none) [.node (mark .getElem none none) [name "table", text "k"],
    value]

end Sample

open Sample in
theorem assignmentTargets_of_constant_numberLast :
    constantText (add (text "a") (number 1)) = .ok (some "a1") ∧
      assignmentTargets (store (add (text "a") (number 1))) = .ok [] := by
  have hconstant : constantText (add (text "a") (number 1)) = .ok (some "a1") := by decide +kernel
  obtain ⟨hnil, -⟩ :=
    assignmentTargets_of_constant (store (add (text "a") (number 1))) _ _ [] "a1" rfl rfl hconstant
  refine ⟨hconstant, hnil.mpr ?_⟩
  rintro ⟨-, last, hlast, hstring⟩
  obtain rfl : number 1 = last := Option.some.inj hlast
  cases hstring

open Sample in
/-- `table["k"] = "a" + "b"` is taken to make `b` callable. -/
theorem assignmentTargets_of_stored_sum :
    constantText (add (text "a") (text "b")) = .ok (some "ab") ∧
      assignmentTargets (store (add (text "a") (text "b"))) =
        .ok [⟨"b", (store (add (text "a") (text "b"))).label⟩] := by
  constructor
  · decide +kernel
  · rfl

end Node

end CallAudit
