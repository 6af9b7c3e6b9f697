import CallAudit.Proofs.Shape

/-!
# Names along a callee

From a call one can go down its callee: through property accesses to their objects, through inner
calls to their callees, and finally to a plain name.  A call is registered with the names up to the
first inner call only, and the names from there on are left to the visit of that call.  Together
they miss none.
-/

namespace CallAudit

namespace Node

variable {ι : Type}

def IsCall (n : Node ι) : Prop := n.kind = .call ∨ n.kind = .new

instance (n : Node ι) : Decidable n.IsCall := inferInstanceAs (Decidable (_ ∨ _))

/-- The names met on the way down from a node: the properties of property accesses and the name at
the end. -/
inductive Meets : Node ι → Text → Prop
  | name {n : Node ι} {s : Text} (hkind : n.kind = .name) (hstring : n.label.string? = some s) :
      Meets n s
  | property {m : Mark ι} {object property : Node ι} {s : Text} (hkind : m.kind = .getProp)
      (hstring : property.label.string? = some s) : Meets (.node m [object, property]) s
  | object {m : Mark ι} {object property : Node ι} {s : Text} (hkind : m.kind = .getProp)
      (hobject : Meets object s) : Meets (.node m [object, property]) s
  | callee {m : Mark ι} {callee : Node ι} {arguments : List (Node ι)} {s : Text}
      (hkind : m.kind = .call ∨ m.kind = .new) (hcallee : Meets callee s) :
      Meets (.node m (callee :: arguments)) s

def Holds (n : Node ι) (targets : List (Target ι)) (s : Text) : Prop :=
  ∃ t ∈ targets, t.name = s ∧ t.site ∈ n.preorder

/-- Wherever the call stands, its targets hold the name. -/
def RefersTo (call : Node ι) (s : Text) : Prop :=
  ∀ p : Place (Mark ι), p.tree = call → ∃ targets, callTargets p = .ok targets ∧
    call.Holds targets s

theorem Holds.mono {c n : Node ι} (hc : c ∈ n.children) {targets more : List (Target ι)} {s : Text}
    (h : c.Holds targets s) (hsub : ∀ t ∈ targets, t ∈ more) : n.Holds more s := by
  obtain ⟨t, ht, hname, hsite⟩ := h
  exact ⟨t, hsub t ht, hname, Tree.mem_preorder_of_mem_subtrees
    (Tree.mem_subtrees_of_mem_children hc) hsite⟩

theorem mem_targetsAt {site : Mark ι} {names : List Text} {s : Text} (h : s ∈ names) :
    (⟨s, site⟩ : Target ι) ∈ targetsAt site names := List.mem_map_of_mem h

theorem holds_targetsAt (n : Node ι) {names : List Text} {s : Text} (h : s ∈ names) :
    n.Holds (targetsAt n.label names) s :=
  ⟨⟨s, n.label⟩, mem_targetsAt h, rfl, Tree.label_mem_preorder (Tree.mem_subtrees_self n)⟩

/-- The property of an access is among its own targets. -/
theorem holds_spineTargets_property {m : Mark ι} {object property : Node ι} {s : Text}
    (hstring : property.label.string? = some s) :
    Holds (.node m [object, property]) (spineTargets (.node m [object, property])) s := by
  rw [spineTargets, hstring]
  split
  · obtain ⟨t, ht, h⟩ := holds_targetsAt (.node m [object, property]) (List.mem_singleton_self s)
    exact ⟨t, List.mem_append_left _ ht, h⟩
  · exact holds_targetsAt (.node m [object, property]) (by simp)

/-- A call refers to the name it calls plainly, and to the names that the property access it calls
contributes. -/
theorem refersTo_of_callee {m : Mark ι} {callee : Node ι} {arguments : List (Node ι)} {s : Text}
    (h : WellShaped (.node m (callee :: arguments))) (hkind : m.kind = .call ∨ m.kind = .new)
    (hcallee : kind callee = .name ∧ callee.label.string? = some s ∨
      kind callee = .getProp ∧ Holds callee (spineTargets callee) s) :
    RefersTo (.node m (callee :: arguments)) s := by
  rintro ⟨_, following, ancestors⟩ rfl
  have hmem : callee ∈ callee :: arguments := List.mem_cons_self
  rw [callTargets_eq (p := ⟨.node m (callee :: arguments), following, ancestors⟩) hkind rfl,
    calleeTargets]
  rcases hcallee with ⟨hk, hs⟩ | ⟨hk, hholds⟩
  · rw [hk]
    simp only [string_eq_ok hs, ok_bind, pure_eq_ok]
    exact ⟨_, rfl, (holds_targetsAt callee (List.mem_singleton_self s)).mono hmem fun t ht ↦ ht⟩
  · rw [hk]
    simp only [WellShaped.chainTargets_eq (fun c hc ↦ h.of_mem_children hc) hk]
    exact ⟨_, rfl, hholds.mono hmem fun t ht ↦ List.mem_append_left _ ht⟩

/-- The induction down a callee: a name that is met is the name of the node itself, or among the
targets of the property access, or referred to by a call at the node or below it. -/
theorem Meets.cases_of_wellShaped {n : Node ι} {s : Text} (h : Meets n s) (hn : n.WellShaped) :
    (n.kind = .name ∧ n.label.string? = some s) ∨ (n.kind = .getProp ∧ n.Holds (spineTargets n) s) ∨
      ∃ call ∈ n.subtrees, IsCall call ∧ RefersTo call s := by
  induction h with
  | name hkind hstring => exact .inl ⟨hkind, hstring⟩
  | property hkind hstring => exact .inr (.inl ⟨hkind, holds_spineTargets_property hstring⟩)
  | @object m object property s hkind hobject ih =>
      have hmem : object ∈ [object, property] := by simp
      rcases ih (hn.of_mem_children hmem) with ⟨hk, hs⟩ | ⟨hk, hholds⟩ | ⟨call, hcall, hrefers⟩
      · -- a plain name ends the chain, and the access adds it to its own targets
        refine .inr (.inl ⟨hkind, ?_⟩)
        rw [spineTargets, if_neg (by rw [hk]; decide)]
        refine holds_targetsAt (.node m [object, property]) (List.mem_append_right _ ?_)
        simp [objectTexts, hk, hs]
      · refine .inr (.inl ⟨hkind, hholds.mono hmem fun t ht ↦ ?_⟩)
        rw [spineTargets, if_pos hk]
        exact List.mem_append_right _ ht
      · -- the chain stops at an inner call, which the walk visits on its own
        refine .inr (.inr ⟨call, ?_, hrefers⟩)
        exact Tree.mem_subtrees_trans hcall (Tree.mem_subtrees_of_mem_children hmem)
  | @callee m callee arguments s hkind hcallee ih =>
      have hmem : callee ∈ callee :: arguments := List.mem_cons_self
      refine .inr (.inr ?_)
      rcases ih (hn.of_mem_children hmem) with hname | haccess | ⟨call, hcall, hrefers⟩
      · exact ⟨_, Tree.mem_subtrees_self _, hkind, refersTo_of_callee hn hkind (.inl hname)⟩
      · exact ⟨_, Tree.mem_subtrees_self _, hkind, refersTo_of_callee hn hkind (.inr haccess)⟩
      · exact ⟨call, Tree.mem_subtrees_trans hcall (Tree.mem_subtrees_of_mem_children hmem),
          hrefers⟩

end Node

namespace Run

open Node (IsCall Mark Meets WellShaped)

variable {ι : Type}

/-- A name that a call below a place refers to is among the calls that the walk enters. -/
theorem exists_call_of_refersTo {p : Place (Mark ι)} {fs : List (Finding ι)}
    (hfs : p.below.mapM finding = .ok fs) {call : Node ι} (hcall : call ∈ p.tree.descendants)
    (hkind : call.IsCall) {s : Text} (hrefers : call.RefersTo s) :
    ∃ m ∈ call.preorder, ⟨s, m.position⟩ ∈ (Finding.joined fs).calls := by
  obtain ⟨q, hq, rfl⟩ := Place.exists_mem_below hcall
  obtain ⟨f, hf, hfinding⟩ := mem_of_mapM_finding hfs hq
  obtain ⟨targets, htargets, t, ht, rfl, hsite⟩ := hrefers q rfl
  have htargeted : finding q = .ok (.ofTargets targets) := by
    have hkind : Node.kind q.tree = .call ∨ Node.kind q.tree = .new := hkind
    unfold finding
    rcases hkind with hk | hk
    · rw [hk, htargets]
      rfl
    · rw [hk, htargets]
      rfl
  have hcalls : f = .ofTargets targets := Except.ok.inj (hfinding.symm.trans htargeted)
  refine ⟨t.site, hsite, List.mem_flatMap.mpr ⟨f, hf, ?_⟩⟩
  rw [hcalls]
  exact List.mem_map_of_mem ht

/-- In a well-shaped tree of one file, every name met on the way down a callee is counted, and it is
reported in that file if it is forbidden, whether or not equal violations are dropped. -/
theorem walk_reports_callee_names (forbidden : Forbidden) (dedupe : Bool) (n : Node ι)
    (hshape : n.WellShaped) (hfile : ∀ m ∈ n.preorder, m.file = n.label.file) :
    ∃ r, (start forbidden dedupe).walk (.root n) = .ok r ∧
      ∀ call ∈ n.descendants, IsCall call → ∀ s, Meets call s →
        (∃ count, r.registry.count? s = some count ∧ 1 ≤ count) ∧
          (forbidden.contains s = true → ∃ v ∈ r.violations, v.name = s ∧
            v.site.file = n.label.file) := by
  obtain ⟨fs, hfs, hwalk⟩ := exists_walk_eq_ok (start forbidden dedupe) (p := .root n)
    fun q hq ↦ succeeds_finding_of_mem_below hshape hq
  refine ⟨_, hwalk, ?_⟩
  intro call hcall hkind s hs
  have hbelow {d : Node ι} (hd : d ∈ call.subtrees) : d ∈ n.descendants :=
    Tree.mem_descendants_of_mem_subtrees hd hcall
  -- the call that is registered with the name is this one or one further down its callee
  obtain ⟨inner, hinner, hinnerKind, hrefers⟩ :
      ∃ inner ∈ call.subtrees, IsCall inner ∧ Node.RefersTo inner s := by
    rcases hs.cases_of_wellShaped (hshape.of_mem_subtrees
      (Tree.mem_subtrees_of_mem_descendants hcall)) with ⟨hk, _⟩ | ⟨hk, _⟩ | h
    · rcases hkind with h | h <;> simp [hk] at h
    · rcases hkind with h | h <;> simp [hk] at h
    · exact h
  obtain ⟨m, hm, hmem⟩ :=
    exists_call_of_refersTo (p := .root n) hfs (hbelow hinner) hinnerKind hrefers
  refine ⟨?_, fun hforbidden ↦ ⟨_, mem_violations_registerAll (List.Subset.refl []) hmem hforbidden,
    rfl, ?_⟩⟩
  · have hname : s ∈ ((Finding.joined fs).calls.map Sighting.name) := List.mem_map_of_mem hmem
    refine ⟨_, (congrArg (Registry.count? · s) (registry_registerAll _ _)).trans
      ((Registry.count?_foldl_record _ _ s).trans (if_pos hname)), ?_⟩
    have hpos := List.count_pos_iff.mpr hname
    simp only [start, Registry.empty, Registry.count?, List.lookup_nil, Option.getD_none]
    omega
  · have hsubtree := Tree.mem_subtrees_of_mem_descendants (hbelow hinner)
    exact hfile m (Tree.mem_preorder_of_mem_subtrees hsubtree hm)

/-- The tree of `$('x').show().hide()` in a file `a.js`: two property accesses with a call as their
object each. -/
def fluentScript : Node Unit :=
  let mark (kind : Node.Kind) (string? : Option Text) : Mark Unit :=
    ⟨kind, "a.js", 1, string?, none, none, ()⟩
  let access (object : Node Unit) (name : Text) : Node Unit :=
    .node (mark .getProp none) [object, .node (mark .string (some name)) []]
  let call (callee : Node Unit) (arguments : List (Node Unit)) : Node Unit :=
    .node (mark .call none) (callee :: arguments)
  let selection := call (.node (mark .name (some "$")) []) [.node (mark .string (some "x")) []]
  .node (mark .script none) [call (access (call (access selection "show") []) "hide") []]

theorem walk_reports_callee_names_fluentScript :
    ∃ r, (start (.ofNames ["$"]) true).walk (.root fluentScript) = .ok r ∧
      ∃ v ∈ r.violations, v.name = "$" ∧ v.site.file = "a.js" := by
  obtain ⟨r, hwalk, hnames⟩ :=
    walk_reports_callee_names (.ofNames ["$"]) true fluentScript (by decide) (by decide)
  refine ⟨r, hwalk, ?_⟩
  refine (hnames _ (Tree.mem_descendants.mpr ⟨_, List.mem_cons_self, Tree.mem_subtrees_self _⟩)
    (.inl rfl) "$" ?_).2
    (by decide)
  exact .callee (.inl rfl) (.object rfl (.callee (.inl rfl)
    (.object rfl (.callee (.inl rfl) (.name rfl rfl)))))

end Run

end CallAudit
