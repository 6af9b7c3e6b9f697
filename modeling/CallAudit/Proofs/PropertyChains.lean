import CallAudit.Proofs.CalleeSpine

/-!
# Property chains

A chain `a.p₁. … .pₙ` of property accesses gives the names of its properties from the last to the
first, each at its own access, and then the name that it begins with.  A call of the chain goes on
with the chains among its first arguments, and with nothing else: whatever follows an access below
the callee is the string of a property.
-/

namespace CallAudit

namespace Node

variable {ι : Type}

/-- One step of a chain: the mark of the access and the string that is its property. -/
structure Segment (ι : Type) where
  mark : Mark ι
  property : Node ι
  name : Text
  kind_mark : mark.kind = .getProp
  kind_property : kind property = .string
  string_property : property.label.string? = some name

namespace Segment

def access (object : Node ι) (s : Segment ι) : Node ι := .node s.mark [object, s.property]

def target (s : Segment ι) : Target ι := ⟨s.name, s.mark⟩

end Segment

/-- The expression `root.p₁. … .pₙ`. -/
def memberChain (root : Node ι) (segments : List (Segment ι)) : Node ι :=
  segments.foldl Segment.access root

section

variable {root object : Node ι} {name : Text}

theorem propertyChain_access_root (hkind : kind root = .name)
    (hname : root.label.string? = some name) (s : Segment ι) :
    PropertyChain (s.access root) := by
  apply PropertyChain.access s.kind_mark s.kind_property
  · simp [s.string_property]
  · simp [hname]
  · simp [hkind]
  · simp [hkind]

theorem propertyChain_access (h : PropertyChain object) (s : Segment ι) :
    PropertyChain (s.access object) := by
  have hkind := h.kind_eq
  apply PropertyChain.access s.kind_mark s.kind_property
  · simp [s.string_property]
  · simp [hkind]
  · simp [hkind]
  · exact fun _ ↦ h

theorem spineTargets_access_root (hkind : kind root = .name)
    (hname : root.label.string? = some name) (s : Segment ι) :
    spineTargets (s.access root) = [s.target, ⟨name, s.mark⟩] := by
  simp [Segment.access, Segment.target, spineTargets, hkind, objectTexts, s.string_property, hname,
    targetsAt]

theorem spineTargets_access (hkind : kind object = .getProp) (s : Segment ι) :
    spineTargets (s.access object) = s.target :: spineTargets object := by
  simp [Segment.access, Segment.target, spineTargets, hkind, s.string_property, targetsAt]

end

/-- Each further step puts its target in front of those of the chain so far. -/
theorem memberChain_of_propertyChain {object : Node ι} (h : PropertyChain object)
    (segments : List (Segment ι)) :
    PropertyChain (memberChain object segments) ∧
      spineTargets (memberChain object segments) =
        (segments.map Segment.target).reverse ++ spineTargets object := by
  induction segments generalizing object with
  | nil => exact ⟨h, rfl⟩
  | cons s segments ih =>
      obtain ⟨hchain, htargets⟩ := ih (propertyChain_access h s)
      refine ⟨hchain, htargets.trans ?_⟩
      rw [spineTargets_access h.kind_eq, List.map_cons, List.reverse_cons, List.append_assoc]
      rfl

theorem callTargets_of_propertyChain {p : Place (Mark ι)} {callee : Node ι}
    {arguments : List (Node ι)} (hcall : IsCall p.tree)
    (hchildren : p.tree.children = callee :: arguments) (h : PropertyChain callee)
    (harguments : ∀ g ∈ leadingAccesses arguments, PropertyChain g) :
    callTargets p = .ok (spineTargets callee ++
      (leadingAccesses arguments).flatMap spineTargets) := by
  rw [callTargets_eq hcall hchildren, calleeTargets, h.kind_eq]
  exact h.chainTargets_eq harguments

theorem leadingAccesses_eq_nil {ns : List (Node ι)} (h : ns.head?.map kind ≠ some .getProp) :
    leadingAccesses ns = [] := by
  cases ns with
  | nil => rfl
  | cons n ns =>
      apply List.takeWhile_cons_of_neg
      simpa using h

/-- The targets of a chain of property accesses are those of its spine and of the spines of the
accesses that directly follow it.  A call of `name.p₁. … .pₙ` refers to `pₙ, …, p₁, name`, and for
`n ≠ 0` to the spines of the property accesses among its first arguments after that. -/
theorem chainTargets_eq_spines :
    (∀ (g : Node ι) (siblings : List (Node ι)), PropertyChain g →
      (∀ h ∈ leadingAccesses siblings, PropertyChain h) →
      chainTargets (g :: siblings) = .ok (spineTargets g ++
        (leadingAccesses siblings).flatMap spineTargets)) ∧
    ∀ (p : Place (Mark ι)) (root : Node ι) (name : Text) (segments : List (Segment ι))
    (arguments : List (Node ι)),
      IsCall p.tree → p.tree.children = memberChain root segments :: arguments →
      kind root = .name → root.label.string? = some name →
      (arguments.head?.map kind ≠ some .getProp →
        callTargets p = .ok ((segments.map Segment.target).reverse ++
          [⟨name, (segments.head?.map Segment.mark).getD root.label⟩])) ∧
      (segments ≠ [] → (∀ h ∈ leadingAccesses arguments, PropertyChain h) →
        callTargets p = .ok ((segments.map Segment.target).reverse ++
          [⟨name, (segments.head?.map Segment.mark).getD root.label⟩] ++
            (leadingAccesses arguments).flatMap spineTargets)) := by
  refine ⟨fun g siblings hg hsiblings ↦ hg.chainTargets_eq hsiblings, ?_⟩
  intro p root name segments arguments hcall hchildren hkind hname
  have hchain (hne : segments ≠ []) (harguments : ∀ h ∈ leadingAccesses arguments,
      PropertyChain h) :
      callTargets p = .ok ((segments.map Segment.target).reverse ++
        [⟨name, (segments.head?.map Segment.mark).getD root.label⟩] ++
          (leadingAccesses arguments).flatMap spineTargets) := by
    obtain ⟨s, rest, rfl⟩ := List.exists_cons_of_ne_nil hne
    obtain ⟨hmember, htargets⟩ :=
      memberChain_of_propertyChain (propertyChain_access_root hkind hname s) rest
    rw [callTargets_of_propertyChain hcall hchildren hmember harguments]
    change Except.ok (spineTargets (memberChain (s.access root) rest) ++ _) = _
    rw [htargets, spineTargets_access_root hkind hname]
    simp
  refine ⟨?_, hchain⟩
  intro hargument
  by_cases hne : segments = []
  · subst hne
    rw [callTargets_eq hcall hchildren]
    simp [calleeTargets, memberChain, hkind, string_eq_ok hname, targetsAt]
  · have hnone := leadingAccesses_eq_nil hargument
    rw [hchain hne (by simp [hnone]), hnone, List.flatMap_nil, List.append_nil]

namespace ChainSample

def mark (kind : Kind) (string? : Option Text) (tag : Nat) : Mark Nat :=
  ⟨kind, "t.js", 1, string?, none, none, tag⟩

def name (s : Text) : Node Nat := .node (mark .name (some s) 0) []

def segment (s : Text) (tag : Nat) : Segment Nat :=
  ⟨mark .getProp none tag, .node (mark .string (some s) 0) [], s, rfl, rfl, rfl⟩

/-- The arguments `x.y, $().hide, z`. -/
def arguments : List (Node Nat) :=
  [(segment "y" 3).access (name "x"), (segment "hide" 4).access
    (.node (mark .call none 0) [name "$"]), name "z"]

/-- The call `a.b.c(x.y, $().hide, z)`. -/
def call : Node Nat :=
  .node (mark .call none 0) (memberChain (name "a") [segment "b" 1, segment "c" 2] :: arguments)

theorem propertyChain_of_mem_arguments : ∀ g ∈ leadingAccesses arguments, PropertyChain g := by
  have hleading : leadingAccesses arguments =
      [(segment "y" 3).access (name "x"), (segment "hide" 4).access
        (.node (mark .call none 0) [name "$"])] := rfl
  rw [hleading, List.forall_mem_cons, List.forall_mem_singleton]
  constructor
  · exact propertyChain_access_root rfl rfl _
  · apply PropertyChain.access rfl rfl rfl
    · rintro ⟨⟩
    · exact fun _ ↦ ⟨_, _, rfl, fun _ ↦ rfl⟩
    · rintro ⟨⟩

end ChainSample

open ChainSample in
theorem chainTargets_eq_spines_call :
    (callTargets (.root call)).map (fun targets ↦ targets.map fun t ↦ (t.name, t.site.tag)) =
      .ok [("c", 2), ("b", 1), ("a", 1), ("y", 3), ("x", 3), ("hide", 4), ("hide", 4),
        ("$", 4)] := by
  have htargets :=
    (chainTargets_eq_spines.2 (.root call) (name "a") "a" [segment "b" 1, segment "c" 2] arguments
    (.inl rfl) rfl rfl rfl).2 (by simp) propertyChain_of_mem_arguments
  rw [htargets]
  rfl

end Node

end CallAudit
