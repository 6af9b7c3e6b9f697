import CallAudit.Proofs.Grammar

/-!
# Call sites of concrete trees

The calls and instantiations of a concrete tree, in preorder and with their lines, and how many of
them are left when the decorators of methods are taken away.  In a tree of the grammar the sites of
a node are its own and those of its fields.
-/

namespace CallAudit

open scoped List

structure CallSite where
  kind : Node.Kind
  line : Int
  deriving DecidableEq

/-! ### Values collected from a tree -/

theorem flatMap_filter_of_eq_nil {α β : Type} {f : α → List β} {p : α → Bool} {xs : List α}
    (h : ∀ x ∈ xs, p x = false → f x = []) : (xs.filter p).flatMap f = xs.flatMap f := by
  induction xs with
  | nil => rfl
  | cons x xs ih =>
      have ih := ih fun y hy ↦ h y (List.mem_cons_of_mem x hy)
      cases hx : p x with
      | true => rw [List.filter_cons_of_pos hx, List.flatMap_cons, List.flatMap_cons, ih]
      | false =>
          rw [List.filter_cons_of_neg (by simp [hx]), List.flatMap_cons, h x List.mem_cons_self hx,
            ih, List.nil_append]

namespace Tree

variable {α β : Type}

def collect (f : α → Option β) (t : Tree α) : List β := t.preorder.filterMap f

theorem preorders_eq_flatMap (ts : List (Tree α)) : preorders ts = ts.flatMap preorder := by
  induction ts with
  | nil => rfl
  | cons t ts ih => rw [preorders, ih, List.flatMap_cons]

theorem collect_node (f : α → Option β) (a : α) (cs : List (Tree α)) :
    (node a cs).collect f = (f a).toList ++ cs.flatMap (collect f) := by
  have hbelow : (preorders cs).filterMap f = cs.flatMap (collect f) := by
    rw [preorders_eq_flatMap, List.filterMap_flatMap]
    rfl
  rw [collect, preorder, ← hbelow]
  cases hf : f a with
  | none => rw [List.filterMap_cons_none hf, Option.toList_none, List.nil_append]
  | some b => rw [List.filterMap_cons_some hf, Option.toList_some, List.singleton_append]

theorem collect_eq_nil_iff {f : α → Option β} {t : Tree α} :
    t.collect f = [] ↔ ∀ s ∈ t.subtrees, f s.label = none := by
  rw [collect, preorder_eq_map_subtrees, List.filterMap_map, List.filterMap_eq_nil_iff]
  rfl

end Tree

namespace Concrete

def Kind.siteKind? : Kind → Option Node.Kind
  | .callExpression => some .call
  | .newExpression => some .new
  | _ => none

def Mark.callSite? (m : Mark) : Option CallSite := m.kind.siteKind?.map fun k ↦ ⟨k, m.row + 1⟩

def callSites (t : Concrete) : List CallSite := t.collect Mark.callSite?

mutual

/-- The tree without the decorators of its methods. -/
def undecorated : Concrete → Concrete
  | .node m cs => .node m (undecoratedBelow m cs)

def undecoratedBelow (m : Mark) : List Concrete → List Concrete
  | [] => []
  | c :: cs =>
      if m.isDecoratedBy c.label then undecoratedBelow m cs
      else undecorated c :: undecoratedBelow m cs

end

def keptSites (t : Concrete) : List CallSite := t.undecorated.callSites

theorem callSites_eq (t : Concrete) :
    t.callSites = t.label.callSite?.toList ++ t.children.flatMap callSites := by
  obtain ⟨m, cs⟩ := t
  exact Tree.collect_node Mark.callSite? m cs

/-- The recursion for `keptSites`: a node gives its own site, and its children theirs unless they
decorate it. -/
theorem keptSites_eq (t : Concrete) :
    t.keptSites =
      t.label.callSite?.toList ++ (t.children.filter fun c ↦ !t.label.isDecoratedBy c.label).flatMap
        keptSites := by
  obtain ⟨m, cs⟩ := t
  rw [keptSites, callSites, undecorated, Tree.collect_node]
  congr 1
  change (undecoratedBelow m cs).flatMap callSites =
      (cs.filter fun c ↦ !m.isDecoratedBy c.label).flatMap keptSites
  induction cs with
  | nil => rfl
  | cons c cs ih =>
      rw [undecoratedBelow]
      by_cases hc : m.isDecoratedBy c.label = true
      · rw [if_pos hc, ih, List.filter_cons_of_neg (by simp [hc])]
      · rw [if_neg hc, List.filter_cons_of_pos (by simp [hc]), List.flatMap_cons, List.flatMap_cons,
          ih]
        rfl

/-! ### What is lost with the decorators -/

theorem flatMap_filter_sublist {α β : Type} {f g : α → List β} {p : α → Bool} {xs : List α}
    (h : ∀ x ∈ xs, f x <+ g x) : (xs.filter p).flatMap f <+ xs.flatMap g := by
  induction xs with
  | nil => exact List.Sublist.refl []
  | cons x xs ih =>
      have ih := ih fun y hy ↦ h y (List.mem_cons_of_mem x hy)
      cases hx : p x with
      | true =>
          rw [List.filter_cons_of_pos hx, List.flatMap_cons, List.flatMap_cons]
          exact (h x List.mem_cons_self).append ih
      | false =>
          rw [List.filter_cons_of_neg (by simp [hx]), List.flatMap_cons]
          exact ih.trans (List.sublist_append_right _ _)

/-- Where shorter lists are put together from some of the places and make the same list, nothing was
left out. -/
theorem eq_of_flatMap_filter_eq {α β : Type} {f g : α → List β} {p : α → Bool} {xs : List α}
    (h : ∀ x ∈ xs, f x <+ g x) (heq : (xs.filter p).flatMap f = xs.flatMap g) :
    ∀ x ∈ xs, (p x = true → f x = g x) ∧ (p x = false → g x = []) := by
  induction xs with
  | nil => simp
  | cons x xs ih =>
      have hrest : ∀ y ∈ xs, f y <+ g y := fun y hy ↦ h y (List.mem_cons_of_mem x hy)
      have hsub : (xs.filter p).flatMap f <+ xs.flatMap g := flatMap_filter_sublist hrest
      have hx : f x <+ g x := h x List.mem_cons_self
      -- neither the head nor the rest can be longer on the left, so both have the same length on
      -- both sides
      have hle := hsub.length_le
      have hxle := hx.length_le
      cases hp : p x with
      | true =>
          rw [List.filter_cons_of_pos hp, List.flatMap_cons, List.flatMap_cons] at heq
          have hlength := congrArg List.length heq
          rw [List.length_append, List.length_append] at hlength
          have hhead : f x = g x := hx.eq_of_length (by omega)
          have htail := ih hrest (hsub.eq_of_length (by omega))
          intro y hy
          rcases List.mem_cons.mp hy with rfl | hy
          · exact ⟨fun _ ↦ hhead, fun hfalse ↦ absurd (hp.symm.trans hfalse) (by simp)⟩
          · exact htail y hy
      | false =>
          rw [List.filter_cons_of_neg (by simp [hp]), List.flatMap_cons] at heq
          have hlength := congrArg List.length heq
          rw [List.length_append] at hlength
          have hhead : g x = [] := List.eq_nil_of_length_eq_zero (by omega)
          have htail := ih hrest (hsub.eq_of_length (by omega))
          intro y hy
          rcases List.mem_cons.mp hy with rfl | hy
          · exact ⟨fun htrue ↦ absurd (hp.symm.trans htrue) (by simp), fun _ ↦ hhead⟩
          · exact htail y hy

theorem keptSites_sublist (t : Concrete) : t.keptSites <+ t.callSites := by
  induction t using Tree.induction with
  | node m cs ih =>
      rw [keptSites_eq, callSites_eq]
      exact (List.Sublist.refl _).append (flatMap_filter_sublist ih)

theorem callSites_eq_nil_of_mem_subtrees {s t : Concrete} (h : t.callSites = [])
    (hs : s ∈ t.subtrees) :
    s.callSites = [] := by
  have hall := Tree.collect_eq_nil_iff.mp h
  exact Tree.collect_eq_nil_iff.mpr fun r hr ↦ hall r (Tree.mem_subtrees_trans hr hs)

def QuietDecorators (t : Concrete) : Prop :=
  ∀ s ∈ t.subtrees, ∀ d ∈ s.children, s.label.isDecoratedBy d.label = true → callSites d = []

instance (t : Concrete) : Decidable t.QuietDecorators :=
  inferInstanceAs (Decidable (∀ s ∈ t.subtrees, ∀ d ∈ s.children, _))

/-- No site is lost with the decorators exactly if there is none in them. -/
theorem keptSites_eq_callSites_iff (t : Concrete) :
    t.keptSites = t.callSites ↔ t.QuietDecorators := by
  induction t using Tree.induction with
  | node m cs ih =>
      constructor
      · intro heq
        rw [keptSites_eq, callSites_eq] at heq
        have hbelow :=
          eq_of_flatMap_filter_eq (fun c _ ↦ keptSites_sublist c) (List.append_cancel_left heq)
        intro s hs d hd hdecorated
        rcases Tree.mem_subtrees_iff.mp hs with rfl | ⟨c, hc, hs⟩
        · exact (hbelow d hd).2 (by simpa using hdecorated)
        · -- `s` stands inside a child: inside a decorator nothing may hold a site, elsewhere `ih`
          -- applies
          cases hcd : m.isDecoratedBy c.label with
          | true =>
              have hnil := callSites_eq_nil_of_mem_subtrees ((hbelow c hc).2 (by simp [hcd])) hs
              exact callSites_eq_nil_of_mem_subtrees hnil (Tree.mem_subtrees_of_mem_children hd)
          | false => exact (ih c hc).mp ((hbelow c hc).1 (by simp [hcd])) s hs d hd hdecorated
      · intro hquiet
        have hkept : ∀ c ∈ cs, keptSites c = callSites c := fun c hc ↦
          (ih c hc).mpr fun s hs ↦ hquiet s (Tree.mem_subtrees_iff.mpr (.inr ⟨c, hc, hs⟩))
        rw [keptSites_eq, callSites_eq]
        congr 1
        rw [flatMap_filter_of_eq_nil]
        · exact List.flatMap_congr hkept
        · intro c hc hdecorated
          rw [hkept c hc]
          exact hquiet _ (Tree.mem_subtrees_self _) c hc (by simpa using hdecorated)

/-! ### Sites of the parts of a node -/

namespace Grammatical

variable {t : Concrete}

theorem isPlain_of_mem_subtrees (h : t.Grammatical) (hplain : t.label.isPlain = true) :
    ∀ s ∈ t.subtrees, s.label.isPlain = true := by
  induction t using Tree.induction with
  | node m cs ih =>
      intro s hs
      rcases Tree.mem_subtrees_iff.mp hs with rfl | ⟨c, hc, hs⟩
      · exact hplain
      · have hc' : c.label.isPlain = true :=
          ((Tree.Everywhere.at_root h).plain hplain).2 c.label (List.mem_map_of_mem hc)
        exact ih c hc (h.of_mem_children hc) hc' s hs

/-- Below a node that holds nothing but text there is no site. -/
theorem callSites_eq_nil (h : t.Grammatical) (hplain : t.label.isPlain = true) :
    t.callSites = [] := by
  refine Tree.collect_eq_nil_iff.mpr fun s hs ↦ ?_
  have hs' : Grammatical s := Tree.Everywhere.of_mem_subtrees h hs
  have hoperation := ((Tree.Everywhere.at_root hs').plain (h.isPlain_of_mem_subtrees hplain s hs)).1
  have hnone : s.label.kind.siteKind? = none := by
    cases hkind : s.label.kind with
    | callExpression | newExpression => simp [hkind, Kind.isOperation] at hoperation
    | _ => rfl
  rw [Mark.callSite?, hnone, Option.map_none]

theorem keptSites_eq_nil (h : t.Grammatical) (hplain : t.label.isPlain = true) : t.keptSites = [] :=
  List.sublist_nil.mp (h.callSites_eq_nil hplain ▸ keptSites_sublist t)

theorem keptSites_eq_parts (h : t.Grammatical) :
    t.keptSites = t.label.callSite?.toList ++ t.ruleParts.flatMap keptSites := by
  have hparts : t.ruleParts =
      (t.children.filter fun c ↦ !t.label.isDecoratedBy c.label).filter fun c ↦
        c.label.isSignificant := by
    rw [List.filter_filter]
    rfl
  rw [keptSites_eq, hparts]
  congr 1
  refine (flatMap_filter_of_eq_nil fun c hc hnot ↦ ?_).symm
  refine (h.of_mem_children (List.mem_filter.mp hc).1).keptSites_eq_nil ?_
  rw [Mark.isPlain, hnot, Bool.not_false, Bool.true_or]

theorem keptSites_eq_named (h : t.Grammatical) (hkind : t.kind ≠ .methodDefinition) :
    t.keptSites = t.label.callSite?.toList ++ t.named.flatMap keptSites := by
  rw [h.keptSites_eq_parts, ruleParts_eq_named hkind]

end Grammatical

def fieldSites (t : Concrete) (f : Field) : List CallSite := (t.child? f).toList.flatMap keptSites

theorem fieldSites_of_none {t : Concrete} {f : Field} (h : t.child? f = none) :
    t.fieldSites f = [] := by
  rw [fieldSites, h]
  rfl

theorem fieldSites_of_some {t c : Concrete} {f : Field} (h : t.child? f = some c) :
    t.fieldSites f = c.keptSites := by
  rw [fieldSites, h, Option.toList_some, List.flatMap_singleton]

theorem flatMap_eq_of_sublist {α β : Type} {g : α → List β} {xs ys : List α} (hsub : xs <+ ys)
    (hnodup : ys.Nodup) (h : ∀ y ∈ ys, y ∉ xs → g y = []) : xs.flatMap g = ys.flatMap g := by
  induction hsub with
  | slnil => rfl
  | cons y hsub ih =>
      obtain ⟨hy, hnodup⟩ := List.nodup_cons.mp hnodup
      have hnil : g y = [] := h y List.mem_cons_self fun hmem ↦ hy (hsub.subset hmem)
      rw [List.flatMap_cons, hnil, List.nil_append]
      exact ih hnodup fun z hz ↦ h z (List.mem_cons_of_mem y hz)
  | cons_cons y hsub ih =>
      obtain ⟨hy, hnodup⟩ := List.nodup_cons.mp hnodup
      rw [List.flatMap_cons, List.flatMap_cons]
      congr 1
      refine ih hnodup fun z hz hnot ↦ h z (List.mem_cons_of_mem y hz) ?_
      intro hmem
      rcases List.mem_cons.mp hmem with rfl | hmem
      · exact hy hz
      · exact hnot hmem

/-- All forms of the rule of a kind list their fields in the given order. -/
def IsFieldOrder (k : Kind) (order : List Field) : Prop :=
  layouts k ≠ [] ∧ order.Nodup ∧ (∀ fs ∈ layouts k, fs <+ order) ∧
    ∀ f ∈ order, f ∈ (layouts k).flatten

instance (k : Kind) (order : List Field) : Decidable (IsFieldOrder k order) :=
  inferInstanceAs (Decidable (layouts k ≠ [] ∧ _))

/-- The sites of a node are found field by field: all forms of its rule have the fields in the same
order, and a field that a form lacks has no sites. -/
theorem Grammatical.keptSites_eq_fields {t : Concrete} (h : t.Grammatical)
    (ht : t.label.isSignificant = true) {order : List Field} (horder : IsFieldOrder t.kind order) :
    t.keptSites = t.label.callSite?.toList ++ order.flatMap t.fieldSites := by
  obtain ⟨hlayouts, hnodup, hforms, hflat⟩ := horder
  obtain ⟨fs, hfs, hparts, hothers⟩ := h.exists_layout ht hlayouts
  have habsent : ∀ f ∈ order, f ∉ fs → t.fieldSites f = [] :=
    fun f hf hnot ↦ fieldSites_of_none (hothers f (hflat f hf) hnot)
  rw [h.keptSites_eq_parts, hparts, ← flatMap_eq_of_sublist (hforms fs hfs) hnodup habsent,
    List.flatMap_assoc]
  rfl

end Concrete

end CallAudit
