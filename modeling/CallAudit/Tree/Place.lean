import CallAudit.Tree.Basic

/-!
# Places in a tree

A subtree together with its surroundings: the siblings that follow it, and the nodes above it.
-/

namespace CallAudit

/-- A subtree and where it stands: `following` are its later siblings in order, `ancestors` the
nodes above it from its parent upwards. -/
structure Place (α : Type) where
  tree : Tree α
  following : List (Tree α)
  ancestors : List (Tree α)

namespace Place

variable {α : Type}

def root (t : Tree α) : Place α := ⟨t, [], []⟩

def siblings (ancestors : List (Tree α)) : List (Tree α) → List (Place α)
  | [] => []
  | t :: ts => ⟨t, ts, ancestors⟩ :: siblings ancestors ts

def children (p : Place α) : List (Place α) := siblings (p.tree :: p.ancestors) p.tree.children

def parent? (p : Place α) : Option (Tree α) := p.ancestors.head?

def next? (p : Place α) : Option (Tree α) := p.following.head?

def weight (places : List (Place α)) : Nat := Tree.sizes (places.map Place.tree)

@[simp] theorem weight_nil : weight ([] : List (Place α)) = 0 := rfl

@[simp] theorem weight_cons (p : Place α) (ps : List (Place α)) :
    weight (p :: ps) = p.tree.size + weight ps := rfl

@[simp] theorem weight_append (ps qs : List (Place α)) :
    weight (ps ++ qs) = weight ps + weight qs := by
  simp [weight]

@[simp] theorem map_tree_siblings (ancestors ts : List (Tree α)) :
    (siblings ancestors ts).map Place.tree = ts := by
  induction ts with
  | nil => rfl
  | cons t ts ih => simp [siblings, ih]

theorem weight_children (p : Place α) : weight p.children + 1 = p.tree.size := by
  rw [weight, children, map_tree_siblings, Tree.size_eq]

/-- The places at and below some places, each before those below it; the list serves as the stack of
places still to be visited. -/
def visits : List (Place α) → List (Place α)
  | [] => []
  | p :: stack => p :: visits (p.children ++ stack)
termination_by stack => weight stack
decreasing_by
  have := weight_children p
  simp only [weight_append, weight_cons]
  omega

end Place

end CallAudit
