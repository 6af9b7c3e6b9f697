import CallAudit.Proofs.Success
import CallAudit.Proofs.Walks

/-!
# Well-shaped trees

The resolver relies on the shape that the kinds of analysed nodes promise: a call has a callee, a
property access an object and a string, a sum and a computed access two children, a function begins
with a name, and literals and names have their payload.  In a tree of that shape every place can be
told what it says, so that a walk finishes.
-/

namespace CallAudit

namespace Node

variable {ι : Type}

/-- Whether a node has the shape of its kind, as far as the marks of its children tell. -/
def Mark.fits (m : Mark ι) (below : List (Mark ι)) : Bool :=
  match m.kind with
  | .call | .new => !below.isEmpty
  | .getProp => below.length == 2 && (below.getLast?.map Mark.kind) == some .string
  | .getElem | .add => below.length == 2
  | .function => (below.head?.map Mark.kind) == some .name
  | .name | .string | .stringKey => m.string?.isSome
  | .number => m.number?.isSome
  | _ => true

def WellShaped (n : Node ι) : Prop := n.Everywhere fun m below ↦ m.fits below = true

instance (n : Node ι) : Decidable n.WellShaped :=
  inferInstanceAs (Decidable (n.Everywhere fun m below ↦ m.fits below = true))

namespace WellShaped

variable {n : Node ι}

theorem of_mem_children (h : n.WellShaped) {c : Node ι} (hc : c ∈ n.children) : WellShaped c :=
  Tree.Everywhere.of_mem_children h hc

theorem of_mem_subtrees (h : n.WellShaped) {s : Node ι} (hs : s ∈ n.subtrees) : WellShaped s :=
  Tree.Everywhere.of_mem_subtrees h hs

theorem fits (h : n.WellShaped) : n.label.fits (n.children.map Tree.label) = true :=
  Tree.Everywhere.at_root h

theorem exists_callee (h : n.WellShaped) (hkind : n.kind = .call ∨ n.kind = .new) :
    ∃ callee arguments, n.children = callee :: arguments := by
  have hfits := h.fits
  cases hcs : n.children with
  | nil => rcases hkind with hk | hk <;> simp_all [kind, Mark.fits]
  | cons callee arguments => exact ⟨callee, arguments, rfl⟩

theorem exists_pair (h : n.WellShaped)
    (hkind : n.kind = .getProp ∨ n.kind = .getElem ∨ n.kind = .add) :
    ∃ left right, n.children = [left, right] := by
  have hlen : n.children.length = 2 := by
    have hfits := h.fits
    rcases hkind with hk | hk | hk <;> simp_all [kind, Mark.fits]
  match hcs : n.children with
  | [left, right] => exact ⟨left, right, rfl⟩
  | [] | [_] | _ :: _ :: _ :: _ => simp [hcs] at hlen

theorem exists_property (h : n.WellShaped) (hkind : n.kind = .getProp) :
    ∃ object property, n.children = [object, property] ∧ kind property = .string := by
  obtain ⟨object, property, hcs⟩ := h.exists_pair (.inl hkind)
  have hfits := h.fits
  refine ⟨object, property, hcs, ?_⟩
  simpa [kind, Mark.fits, show n.label.kind = .getProp from hkind, hcs] using hfits

theorem exists_name (h : n.WellShaped) (hkind : n.kind = .function) :
    ∃ name rest, n.children = name :: rest ∧ kind name = .name := by
  have hfits := h.fits
  cases hcs : n.children with
  | nil => simp [Mark.fits, show n.label.kind = .function from hkind, hcs] at hfits
  | cons name rest =>
      refine ⟨name, rest, rfl, ?_⟩
      simpa [kind, Mark.fits, show n.label.kind = .function from hkind, hcs] using hfits

theorem exists_string (h : n.WellShaped)
    (hkind : n.kind = .name ∨ n.kind = .string ∨ n.kind = .stringKey) :
    ∃ s, n.label.string? = some s := by
  have hfits := h.fits
  refine Option.isSome_iff_exists.mp ?_
  rcases hkind with hk | hk | hk <;> simpa [Mark.fits, show n.label.kind = _ from hk] using hfits

theorem exists_number (h : n.WellShaped) (hkind : n.kind = .number) :
    ∃ x, n.label.number? = some x := by
  have hfits := h.fits
  refine Option.isSome_iff_exists.mp ?_
  simpa [Mark.fits, show n.label.kind = .number from hkind] using hfits

theorem succeeds_string (h : n.WellShaped)
    (hkind : n.kind = .name ∨ n.kind = .string ∨ n.kind = .stringKey) :
    Succeeds n.string := by
  obtain ⟨s, hs⟩ := h.exists_string hkind
  exact ⟨s, by rw [string, hs]⟩

end WellShaped

theorem string_eq_ok {n : Node ι} {s : Text} (h : n.label.string? = some s) : n.string = .ok s := by
  rw [string, h]

/-! ### Constant texts -/

theorem WellShaped.succeeds_literalText {n : Node ι} (h : n.WellShaped) :
    Succeeds n.literalText := by
  unfold literalText
  split
  · next hk => exact (h.succeeds_string (.inr (.inl hk))).map some
  · next hk =>
    obtain ⟨x, hx⟩ := h.exists_number hk
    rw [hx]
    exact Succeeds.ok _
  · exact Succeeds.ok _

/-- The shape holds throughout a sum, so that all literals in it have their payloads. -/
theorem WellShaped.succeeds_constantOnto {n : Node ι} (h : n.WellShaped) (after : Text) :
    Succeeds (constantOnto n after) := by
  fun_induction constantOnto n after with
  | case1 m left right after hadd ihright ihleft =>
      refine (ihright (h.of_mem_children (by simp))).bind fun text? ↦ ?_
      cases text? with
      | none => exact Succeeds.pure none
      | some text => exact ihleft text (h.of_mem_children (by simp))
  | case2 m left right after hadd => exact h.succeeds_literalText.bind fun own ↦ Succeeds.pure _
  | case3 m children after hpair hadd =>
      -- a sum without two operands is the malformed case
      obtain ⟨left, right, hcs⟩ := h.exists_pair (.inr (.inr hadd))
      exact (hpair left right hcs).elim
  | case4 m children after hpair hadd => exact h.succeeds_literalText.bind fun own ↦ Succeeds.pure _

theorem WellShaped.succeeds_computedKey {n : Node ι} (h : n.WellShaped)
    (hkind : n.kind = .getElem) :
    Succeeds n.computedKey := by
  obtain ⟨object, key, hcs⟩ := h.exists_pair (.inr (.inl hkind))
  have hkey : WellShaped key := h.of_mem_children (by simp [hcs])
  unfold computedKey
  rw [hkind, hcs]
  simp only
  split
  · exact (hkey.succeeds_constantOnto []).bind fun text? ↦ Succeeds.pure _
  · exact Succeeds.ok none

/-! ### Property chains -/

def objectTexts (object property : Node ι) : List Text :=
  match kind object with
  | .call =>
    property.label.string?.toList ++
      ((object.children.head?.filter (kind · = .name)).bind (·.label.string?)).toList
  | .name => object.label.string?.toList
  | _ => []

/-- The targets that a property access contributes by itself: those of its property and of its
objects. -/
def spineTargets : Node ι → List (Target ι)
  | .node m [object, property] =>
    if kind object = .getProp then targetsAt m property.label.string?.toList ++ spineTargets object
    else targetsAt m (property.label.string?.toList ++ objectTexts object property)
  | _ => []

def leadingAccesses (ns : List (Node ι)) : List (Node ι) := ns.takeWhile (kind · = .getProp)

/-- A property access with an object and a string, as are all accesses further down its objects, and
a call that ends the chain has a callee; the nodes that give names have their texts. -/
inductive PropertyChain : Node ι → Prop
  | access {m : Mark ι} {object property : Node ι} (hkind : m.kind = .getProp)
      (hproperty : kind property = .string) (htext : property.label.string?.isSome = true)
      (hname : kind object = .name → object.label.string?.isSome = true)
      (hcall : kind object = .call → ∃ callee arguments, object.children = callee :: arguments ∧
        (kind callee = .name → callee.label.string?.isSome = true))
      (hobject : kind object = .getProp → PropertyChain object) :
      PropertyChain (.node m [object, property])

theorem PropertyChain.kind_eq {n : Node ι} (h : PropertyChain n) : n.kind = .getProp := by
  cases h with
  | access hkind => exact hkind

theorem WellShaped.propertyChain {n : Node ι} (h : n.WellShaped) (hkind : n.kind = .getProp) :
    PropertyChain n := by
  induction n using Tree.induction with
  | node m cs ih =>
      obtain ⟨object, property, hcs, hstring⟩ := h.exists_property hkind
      rw [Tree.children_node] at hcs
      subst hcs
      have hobject : WellShaped object := h.of_mem_children (by simp)
      have hproperty : WellShaped property := h.of_mem_children (by simp)
      apply PropertyChain.access hkind hstring
      · exact Option.isSome_iff_exists.mpr (hproperty.exists_string (.inr (.inl hstring)))
      · intro hname
        exact Option.isSome_iff_exists.mpr (hobject.exists_string (.inl hname))
      · intro hcall
        obtain ⟨callee, arguments, hcs⟩ := hobject.exists_callee (.inl hcall)
        have hcallee : WellShaped callee := hobject.of_mem_children (by simp [hcs])
        exact ⟨callee, arguments, hcs, fun hname ↦
          Option.isSome_iff_exists.mpr (hcallee.exists_string (.inl hname))⟩
      · intro hbelow
        exact ih object (by simp) hobject hbelow

theorem PropertyChain.objectNames_eq {m : Mark ι} {object property : Node ι}
    (h : PropertyChain (.node m [object, property])) :
    objectNames object property = .ok (objectTexts object property) := by
  cases h with
  | access _ _ htext hname hcall _ =>
  obtain ⟨s, hs⟩ := Option.isSome_iff_exists.mp htext
  unfold objectNames objectTexts
  cases hk : kind object with
  | call =>
      obtain ⟨callee, arguments, hcs, hcallee⟩ := hcall hk
      rw [string_eq_ok hs, hcs, hs]
      simp only [List.head?_cons, ok_bind, Option.filter]
      by_cases hplain : kind callee = .name
      · obtain ⟨t, ht⟩ := Option.isSome_iff_exists.mp (hcallee hplain)
        simp [hplain, string_eq_ok ht, ht]
      · simp [hplain]
  | name =>
      obtain ⟨t, ht⟩ := Option.isSome_iff_exists.mp (hname hk)
      simp [string_eq_ok ht, ht]
  | _ => rfl

/-- A property access contributes its property and then what its object adds. -/
theorem PropertyChain.accessTargets_eq {n : Node ι} (h : PropertyChain n) :
    accessTargets n = .ok (spineTargets n) := by
  induction h with
  | @access m object property hkind hproperty htext hname hcall hobject ih =>
      have hnames := (PropertyChain.access hkind hproperty htext hname hcall hobject).objectNames_eq
      obtain ⟨s, hs⟩ := Option.isSome_iff_exists.mp htext
      rw [accessTargets, spineTargets, hs]
      · simp only [hproperty, if_true, string_eq_ok hs, ok_bind, pure_eq_ok]
        by_cases hk : kind object = .getProp
        · have hchain : chainTargets [object, property] = .ok (spineTargets object) := by
            rw [chainTargets, ih hk]
            simp [hproperty]
          simp [hk, hchain]
        · simp [hk, hnames]
      · exact hkind

/-- Chains that follow each other contribute what their accesses contribute one after the other. -/
theorem PropertyChain.chainTargets_eq {access : Node ι} {siblings : List (Node ι)}
    (h : PropertyChain access) (hsiblings : ∀ g ∈ leadingAccesses siblings, PropertyChain g) :
    chainTargets (access :: siblings) =
      .ok (spineTargets access ++ (leadingAccesses siblings).flatMap spineTargets) := by
  induction siblings generalizing access with
  | nil =>
      rw [chainTargets, h.accessTargets_eq]
      simp [leadingAccesses]
  | cons next siblings ih =>
      rw [chainTargets, h.accessTargets_eq]
      by_cases hnext : kind next = .getProp
      · have hleading : leadingAccesses (next :: siblings) = next :: leadingAccesses siblings := by
          simp [leadingAccesses, hnext]
        obtain ⟨hown, hmore⟩ := List.forall_mem_cons.mp (hleading ▸ hsiblings)
        rw [ih hown hmore, hleading]
        simp [hnext]
      · simp [leadingAccesses, hnext]

/-- In a tree of the promised shape, every access down the objects and to the right can be
resolved. -/
theorem WellShaped.chainTargets_eq {access : Node ι} {siblings : List (Node ι)}
    (h : ∀ n ∈ access :: siblings, WellShaped n) (hkind : kind access = .getProp) :
    chainTargets (access :: siblings) =
      .ok (spineTargets access ++ (leadingAccesses siblings).flatMap spineTargets) := by
  apply ((h access List.mem_cons_self).propertyChain hkind).chainTargets_eq
  intro g hg
  have hmem : g ∈ siblings := (List.takeWhile_sublist _).subset hg
  have hgkind : kind g = .getProp := of_decide_eq_true (List.all_eq_true.mp List.all_takeWhile g hg)
  exact (h g (List.mem_cons_of_mem _ hmem)).propertyChain hgkind

/-! ### Places -/

def calleeTargets (call : Mark ι) (callee : Node ι) (arguments : List (Node ι)) :
    Except Malformed (List (Target ι)) :=
  match kind callee with
  | .getProp => chainTargets (callee :: arguments)
  | .name => do pure (targetsAt callee.label [← string callee])
  | .getElem => do pure (targetsAt call (← computedKey callee).toList)
  | _ => pure []

theorem callTargets_eq {p : Place (Mark ι)} {callee : Node ι} {arguments : List (Node ι)}
    (hkind : kind p.tree = .call ∨ kind p.tree = .new)
    (hcs : p.tree.children = callee :: arguments) :
    callTargets p = calleeTargets p.tree.label callee arguments := by
  simp only [callTargets]
  rcases hkind with hk | hk
  · rw [hk, hcs]
    rfl
  · rw [hk, hcs]
    rfl

/-- A call in a tree of the promised shape is resolved. -/
theorem WellShaped.succeeds_callTargets {p : Place (Mark ι)} (h : WellShaped p.tree)
    (hkind : kind p.tree = .call ∨ kind p.tree = .new) : Succeeds (callTargets p) := by
  obtain ⟨callee, arguments, hcs⟩ := h.exists_callee hkind
  have hbelow (c : Node ι) (hc : c ∈ callee :: arguments) : WellShaped c :=
    h.of_mem_children (hcs ▸ hc)
  have hcallee : WellShaped callee := hbelow callee (by simp)
  rw [callTargets_eq hkind hcs]
  unfold calleeTargets
  split
  · next hk =>
    rw [WellShaped.chainTargets_eq hbelow hk]
    exact Succeeds.ok _
  · next hk => exact (hcallee.succeeds_string (.inl hk)).bind fun s ↦ Succeeds.pure _
  · next hk => exact (hcallee.succeeds_computedKey hk).bind fun key? ↦ Succeeds.pure _
  · exact Succeeds.pure _

theorem WellShaped.succeeds_assignmentTargets {n : Node ι} (h : n.WellShaped)
    (hkind : n.kind.isAssignment = true) :
    Succeeds n.assignmentTargets := by
  unfold assignmentTargets
  rw [if_pos hkind]
  split
  · next target second rest hcs =>
    have hbelow (c : Node ι) (hc : c ∈ target :: second :: rest) : WellShaped c :=
      h.of_mem_children (hcs ▸ hc)
    have htarget : WellShaped target := hbelow target (by simp)
    have hvalue : WellShaped ((second :: rest).getLast (by simp)) :=
      hbelow _ (List.mem_cons_of_mem _ (List.getLast_mem _))
    refine Succeeds.bind ?_ fun values ↦ Succeeds.bind ?_ fun keys ↦ Succeeds.pure _
    · unfold valueNames
      split
      · next hk => exact (hvalue.succeeds_string (.inl hk)).bind fun s ↦ Succeeds.pure _
      · split
        · next last hlast =>
          split
          · next hk =>
            have hstring : WellShaped last := hvalue.of_mem_children (List.mem_of_getLast? hlast)
            exact (hstring.succeeds_string (.inr (.inl hk.2))).bind fun s ↦ Succeeds.pure _
          · exact Succeeds.pure _
        · exact Succeeds.pure _
    · unfold keyNames
      split
      · next hk => exact (htarget.succeeds_computedKey hk.1).bind fun key? ↦ Succeeds.pure _
      · exact Succeeds.pure _
  · exact Succeeds.pure _

theorem WellShaped.succeeds_targetName {n : Node ι} (h : n.WellShaped) : Succeeds n.targetName := by
  unfold targetName
  split
  · next hk => exact (h.succeeds_computedKey hk).mapError _
  · next hk =>
    obtain ⟨object, property, hcs, hstring⟩ := h.exists_property hk
    have hproperty : WellShaped property := h.of_mem_children (by simp [hcs])
    rw [hcs]
    exact ((hproperty.succeeds_string (.inr (.inl hstring))).map some).mapError _
  · exact Succeeds.ok none

theorem WellShaped.succeeds_ownName {n : Node ι} (h : n.WellShaped) (hkind : n.kind = .function) :
    Succeeds n.ownName := by
  obtain ⟨name, rest, hcs, hname⟩ := h.exists_name hkind
  have hshaped : WellShaped name := h.of_mem_children (by simp [hcs])
  unfold ownName
  rw [hcs]
  simp only [List.head?_cons, hname, if_true]
  exact (hshaped.succeeds_string (.inl hname)).bind fun s ↦ Succeeds.pure _

/-- The parent of a function is the only surrounding that its name depends on for its shape. -/
theorem succeeds_declaredName {p : Place (Mark ι)} (h : WellShaped p.tree)
    (hkind : kind p.tree = .function)
    (hparent : ∀ parent, p.ancestors.head? = some parent → WellShaped parent) :
    Succeeds (declaredName p) := by
  have hown : Succeeds ((ownName p.tree).mapError Failure.malformed) :=
    (h.succeeds_ownName hkind).mapError _
  unfold declaredName
  simp only [hkind, if_true]
  split
  · exact hown
  · next parent above hanc =>
    have hshaped : WellShaped parent := hparent parent (by simp [hanc])
    split
    · cases hcs : parent.children.head? with
      | none => exact hown
      | some target =>
          exact (hshaped.of_mem_children (List.mem_of_head? hcs)).succeeds_targetName
    · split
      · next hk =>
        refine ((hshaped.succeeds_string ?_).map some).mapError _
        rcases hk with hk | ⟨hk, -⟩
        · exact .inr (.inr hk)
        · exact .inl hk
      · exact hown

end Node

namespace Run

open Node (Mark WellShaped)

variable {ι : Type}

/-- A place is told by its own node and, for functions, by the parent. -/
theorem succeeds_finding {p : Place (Mark ι)} (h : WellShaped p.tree)
    (hparent : ∀ parent, p.ancestors.head? = some parent → WellShaped parent) :
    Succeeds (finding p) := by
  unfold finding
  split
  · exact Succeeds.ok _
  · next hk => exact ((h.succeeds_callTargets (.inl hk)).map _).mapError _
  · next hk => exact ((h.succeeds_callTargets (.inr hk)).map _).mapError _
  · next operator hk =>
    have hassign : (Node.kind p.tree).isAssignment = true := by rw [hk]; rfl
    exact ((h.succeeds_assignmentTargets hassign).map _).mapError _
  · next hk => exact (Node.succeeds_declaredName h hk hparent).map _
  · exact Succeeds.ok _

/-- Below a well-shaped tree every place says something. -/
theorem succeeds_finding_of_mem_below {p q : Place (Mark ι)} (h : WellShaped p.tree)
    (hq : q ∈ p.below) :
    Succeeds (finding q) := by
  have hbelow {o : Place (Mark ι)} (ho : o = p ∨ o ∈ p.below) : WellShaped o.tree := by
    rcases ho with rfl | ho
    · exact h
    · exact h.of_mem_subtrees (Tree.mem_subtrees_of_mem_descendants (Place.tree_mem_descendants ho))
  -- a place below has a parent, at `p` or below it, and that parent is the only ancestor that
  -- matters
  obtain ⟨o, ho, hqo⟩ := Place.exists_parent_of_mem_below hq
  refine succeeds_finding (hbelow (.inr hq)) fun parent hparent ↦ ?_
  rw [(Place.mem_siblings hqo).1] at hparent
  obtain rfl := Option.some.inj hparent
  exact hbelow ho

end Run

end CallAudit
