import CallAudit.Proofs.Walks

/-!
# Walks as recursions

A walk keeps the places still to be visited on a stack.  Here the stack is shown to stand for a
recursion over the tree: what is left to be visited are the preorders of its entries, one after the
other.  A walk therefore ends with the first failure in preorder, and if there is none, with
everything that the places say entered in preorder.
-/

namespace CallAudit

namespace Place

variable {α : Type}

mutual

/-- The place of a tree and the places below it, by recursion over the tree: a node comes before its
children, and what is below a child comes before the next child. -/
def preorderAt (following ancestors : List (Tree α)) : Tree α → List (Place α)
  | .node a children =>
    ⟨.node a children, following, ancestors⟩ ::
      preordersBelow (.node a children :: ancestors) children

def preordersBelow (ancestors : List (Tree α)) : List (Tree α) → List (Place α)
  | [] => []
  | t :: ts => preorderAt ts ancestors t ++ preordersBelow ancestors ts

end

def preorder (p : Place α) : List (Place α) := preorderAt p.following p.ancestors p.tree

def descendants (p : Place α) : List (Place α) :=
  preordersBelow (p.tree :: p.ancestors) p.tree.children

theorem preorder_eq (p : Place α) : p.preorder = p :: p.descendants := by
  obtain ⟨⟨a, children⟩, following, ancestors⟩ := p
  rfl

theorem flatMap_preorder_siblings (ancestors ts : List (Tree α)) :
    (siblings ancestors ts).flatMap preorder = preordersBelow ancestors ts := by
  induction ts with
  | nil => rfl
  | cons t ts ih =>
      rw [siblings, List.flatMap_cons, ih]
      rfl

theorem flatMap_preorder_children (p : Place α) : p.children.flatMap preorder = p.descendants :=
  flatMap_preorder_siblings _ _

/-- The invariant of the stack: what it leads to are the preorders of its places one after the
other. -/
theorem visits_eq_flatMap (stack : List (Place α)) : visits stack = stack.flatMap preorder := by
  fun_induction visits stack with
  | case1 => rfl
  | case2 p stack ih =>
      -- the children of `p` come to lie on top of the rest of the stack, so that their preorders
      -- come first
      rw [ih, List.flatMap_append, flatMap_preorder_children, List.flatMap_cons, preorder_eq,
        List.cons_append]

/-- What the stack leads to below a place is what the recursion finds there. -/
theorem below_eq_descendants (p : Place α) : p.below = p.descendants := by
  rw [below, visits_eq_flatMap, flatMap_preorder_children]

end Place

namespace Run

open Node (Failure Mark)

variable {ι : Type}

def failure? (q : Place (Mark ι)) : Option Failure :=
  match finding q with
  | .error e => some e
  | .ok _ => none

def findings (qs : List (Place (Mark ι))) : List (Finding ι) :=
  qs.filterMap fun q ↦ (finding q).toOption

/-- The places up to the first failure are all that matters. -/
theorem mapM_finding (qs : List (Place (Mark ι))) :
    qs.mapM finding =
      match qs.findSome? failure? with
      | some e => .error e
      | none => .ok (findings qs) := by
  induction qs with
  | nil => rfl
  | cons q qs ih =>
      rw [List.mapM_cons, ih, List.findSome?_cons, failure?]
      cases hq : finding q with
      | error e => rfl
      | ok f =>
          have hfindings : findings (q :: qs) = f :: findings qs := by
            rw [findings, List.filterMap_cons, hq]
            rfl
          rw [hfindings]
          cases qs.findSome? failure? with
          | some e => rfl
          | none => rfl

/-- A walk from any run refines the recursion over the tree.  It ends with the error of the first
place below, in preorder, that has one.  If there is none, the calls that the places below stand for
are registered one by one, and the variables and functions that they declare are put behind those of
the run, all in preorder. -/
theorem walk_eq_recursion (r : Run ι) (p : Place (Mark ι)) :
    r.walk p =
      match p.descendants.findSome? failure? with
      | some e => .error e
      | none => .ok
        { ((findings p.descendants).flatMap Finding.calls).foldl register r with
          declared := r.declared ++ (findings p.descendants).flatMap Finding.declared
          functions := r.functions ++ (findings p.descendants).flatMap Finding.functions } := by
  rw [walk_eq, Place.below_eq_descendants, mapM_finding]
  cases p.descendants.findSome? failure? with
  | some e => rfl
  | none => rfl

end Run

end CallAudit
