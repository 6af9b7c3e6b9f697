import CallAudit.Tree.Place

/-!
# Subtrees

The trees inside a tree, in preorder, and conditions that every node of a tree has to meet together
with the labels of its children.  The places that a stack of places leads to are the subtrees with
their surroundings.
-/

namespace CallAudit

namespace Tree

variable {α : Type}

/-- Induction over trees: what holds of a node as soon as it holds of all its children holds of
every tree. -/
@[elab_as_elim, induction_eliminator]
theorem induction {motive : Tree α → Prop}
    (node : ∀ a cs, (∀ c ∈ cs, motive c) → motive (node a cs)) (t : Tree α) : motive t := by
  suffices h : ∀ n, ∀ t : Tree α, t.size ≤ n → motive t from h t.size t (Nat.le_refl _)
  intro n
  induction n with
  | zero =>
      intro t ht
      exact absurd (size_pos t) (by omega)
  | succ n ih =>
      intro t ht
      obtain ⟨a, cs⟩ := t
      refine node a cs fun c hc ↦ ih c ?_
      have hle := size_le_sizes hc
      rw [size_eq, children_node] at ht
      omega

mutual

def subtrees : Tree α → List (Tree α)
  | node a children => node a children :: subtreesAll children

def subtreesAll : List (Tree α) → List (Tree α)
  | [] => []
  | t :: ts => subtrees t ++ subtreesAll ts

end

def descendants (t : Tree α) : List (Tree α) := subtreesAll t.children

theorem subtrees_eq (t : Tree α) : t.subtrees = t :: t.descendants := by
  cases t
  rfl

@[simp] theorem subtreesAll_append (ts us : List (Tree α)) :
    subtreesAll (ts ++ us) = subtreesAll ts ++ subtreesAll us := by
  induction ts with
  | nil => rfl
  | cons t ts ih => simp [subtreesAll, ih]

theorem mem_subtreesAll {s : Tree α} {ts : List (Tree α)} :
    s ∈ subtreesAll ts ↔ ∃ t ∈ ts, s ∈ t.subtrees := by
  induction ts with
  | nil => simp [subtreesAll]
  | cons t ts ih => simp [subtreesAll, ih]

theorem mem_descendants {s t : Tree α} : s ∈ t.descendants ↔ ∃ c ∈ t.children, s ∈ c.subtrees :=
  mem_subtreesAll

theorem mem_subtrees_iff {s t : Tree α} :
    s ∈ t.subtrees ↔ s = t ∨ ∃ c ∈ t.children, s ∈ c.subtrees := by
  rw [subtrees_eq, List.mem_cons, mem_descendants]

@[simp] theorem mem_subtrees_self (t : Tree α) : t ∈ t.subtrees := mem_subtrees_iff.mpr (.inl rfl)

theorem mem_subtrees_of_mem_children {c t : Tree α} (h : c ∈ t.children) : c ∈ t.subtrees :=
  mem_subtrees_iff.mpr (.inr ⟨c, h, mem_subtrees_self c⟩)

theorem mem_subtrees_trans {r s t : Tree α} (hr : r ∈ s.subtrees) (hs : s ∈ t.subtrees) :
    r ∈ t.subtrees := by
  induction t with
  | node a cs ih =>
      rcases mem_subtrees_iff.mp hs with rfl | ⟨c, hc, hs⟩
      · exact hr
      · exact mem_subtrees_iff.mpr (.inr ⟨c, hc, ih c hc hs⟩)

theorem mem_subtrees_of_mem_descendants {s t : Tree α} (h : s ∈ t.descendants) : s ∈ t.subtrees :=
  mem_subtrees_iff.mpr (.inr (mem_descendants.mp h))

theorem mem_descendants_of_mem_subtrees {r s t : Tree α} (hr : r ∈ s.subtrees)
    (hs : s ∈ t.descendants) :
    r ∈ t.descendants := by
  obtain ⟨c, hc, hs⟩ := mem_descendants.mp hs
  exact mem_descendants.mpr ⟨c, hc, mem_subtrees_trans hr hs⟩

mutual

/-- The labels in preorder are those of the subtrees. -/
theorem preorder_eq_map_subtrees : ∀ t : Tree α, t.preorder = t.subtrees.map label
  | node a cs => by simp [preorder, subtrees, preorders_eq_map_subtreesAll cs]

theorem preorders_eq_map_subtreesAll :
    ∀ ts : List (Tree α), preorders ts = (subtreesAll ts).map label
  | [] => rfl
  | t :: ts => by
      simp [preorders, subtreesAll, preorder_eq_map_subtrees t, preorders_eq_map_subtreesAll ts]

end

theorem label_mem_preorder {s t : Tree α} (h : s ∈ t.subtrees) : s.label ∈ t.preorder := by
  rw [preorder_eq_map_subtrees]
  exact List.mem_map_of_mem h

theorem mem_preorder_of_mem_subtrees {s t : Tree α} (hs : s ∈ t.subtrees) {a : α}
    (ha : a ∈ s.preorder) :
    a ∈ t.preorder := by
  rw [preorder_eq_map_subtrees] at ha
  obtain ⟨r, hr, rfl⟩ := List.mem_map.mp ha
  exact label_mem_preorder (mem_subtrees_trans hr hs)

/-! ### Conditions on a node and the labels of its children -/

/-- Every node of the tree stands in `R` to the labels of its children. -/
def Everywhere (R : α → List α → Prop) (t : Tree α) : Prop :=
  ∀ s ∈ t.subtrees, R s.label (s.children.map label)

instance (R : α → List α → Prop) [∀ a below, Decidable (R a below)] (t : Tree α) :
    Decidable (t.Everywhere R) :=
  inferInstanceAs (Decidable (∀ s ∈ t.subtrees, R s.label (s.children.map label)))

namespace Everywhere

variable {R : α → List α → Prop} {t : Tree α}

theorem at_root (h : t.Everywhere R) : R t.label (t.children.map label) := h t (mem_subtrees_self t)

theorem of_mem_subtrees (h : t.Everywhere R) {s : Tree α} (hs : s ∈ t.subtrees) : s.Everywhere R :=
  fun r hr ↦ h r (mem_subtrees_trans hr hs)

theorem of_mem_children (h : t.Everywhere R) {c : Tree α} (hc : c ∈ t.children) : c.Everywhere R :=
  h.of_mem_subtrees (mem_subtrees_of_mem_children hc)

end Everywhere

theorem everywhere_node {R : α → List α → Prop} {a : α} {cs : List (Tree α)} :
    (node a cs).Everywhere R ↔ R a (cs.map label) ∧ ∀ c ∈ cs, c.Everywhere R := by
  constructor
  · intro h
    exact ⟨h.at_root, fun c hc ↦ h.of_mem_children hc⟩
  · rintro ⟨hroot, hbelow⟩ s hs
    rcases mem_subtrees_iff.mp hs with rfl | ⟨c, hc, hs⟩
    · exact hroot
    · exact hbelow c hc s hs

end Tree

namespace Place

variable {α : Type}

theorem visits_cons (p : Place α) (stack : List (Place α)) :
    visits (p :: stack) = p :: visits (p.children ++ stack) := by
  rw [visits]

def below (p : Place α) : List (Place α) := visits p.children

theorem map_tree_children (p : Place α) : p.children.map tree = p.tree.children :=
  map_tree_siblings _ _

/-- A stack of places leads to the subtrees of its trees. -/
theorem map_tree_visits (ps : List (Place α)) :
    (visits ps).map tree = Tree.subtreesAll (ps.map tree) := by
  fun_induction visits ps with
  | case1 => rfl
  | case2 p stack ih =>
      simp only [List.map_cons, ih, List.map_append, map_tree_children, Tree.subtreesAll_append,
        Tree.subtreesAll, Tree.subtrees_eq, Tree.descendants, List.cons_append]

theorem map_tree_below (p : Place α) : p.below.map tree = p.tree.descendants := by
  rw [below, map_tree_visits, map_tree_children, Tree.descendants]

/-- Every place on the way is on the stack or a child of a place on the way. -/
theorem mem_visits_cases {ps : List (Place α)} {q : Place α} (h : q ∈ visits ps) :
    q ∈ ps ∨ ∃ o ∈ visits ps, q ∈ o.children := by
  fun_induction visits ps with
  | case1 => simp at h
  | case2 p stack ih =>
      rcases List.mem_cons.mp h with rfl | h
      · exact .inl List.mem_cons_self
      · rcases ih h with hq | ⟨o, ho, hq⟩
        · rcases List.mem_append.mp hq with hq | hq
          · exact .inr ⟨p, List.mem_cons_self, hq⟩
          · exact .inl (List.mem_cons_of_mem p hq)
        · exact .inr ⟨o, List.mem_cons_of_mem p ho, hq⟩

theorem mem_siblings {ancestors ts : List (Tree α)} {q : Place α} (h : q ∈ siblings ancestors ts) :
    q.ancestors = ancestors ∧ q.tree :: q.following <:+ ts := by
  induction ts with
  | nil => simp [siblings] at h
  | cons t ts ih =>
      rcases List.mem_cons.mp h with rfl | h
      · exact ⟨rfl, List.suffix_refl _⟩
      · obtain ⟨hanc, hsuffix⟩ := ih h
        exact ⟨hanc, hsuffix.trans (List.suffix_cons t ts)⟩

/-- A place below another one is a child of that place or of one below it. -/
theorem exists_parent_of_mem_below {p q : Place α} (h : q ∈ p.below) :
    ∃ o, (o = p ∨ o ∈ p.below) ∧ q ∈ o.children := by
  rcases mem_visits_cases h with hq | ⟨o, ho, hq⟩
  · exact ⟨p, .inl rfl, hq⟩
  · exact ⟨o, .inr ho, hq⟩

theorem tree_mem_descendants {p q : Place α} (h : q ∈ p.below) : q.tree ∈ p.tree.descendants := by
  rw [← map_tree_below]
  exact List.mem_map_of_mem h

/-- Every tree below a place has a place below it. -/
theorem exists_mem_below {p : Place α} {t : Tree α} (h : t ∈ p.tree.descendants) :
    ∃ q ∈ p.below, q.tree = t := by
  rw [← map_tree_below] at h
  exact List.mem_map.mp h

end Place

end CallAudit
