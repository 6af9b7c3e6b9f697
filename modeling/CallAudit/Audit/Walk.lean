import CallAudit.Audit.Run
import CallAudit.Resolve.Target

/-!
# Walks

A walk visits all nodes below a place, each before its children, and enters what it finds into a
run.  The places still to be visited are kept on a stack.
-/

namespace CallAudit

namespace Run

open Node (Failure Mark Target)

variable {ι : Type}

def sighting (t : Target ι) : Sighting := ⟨t.name, t.site.position⟩

def registerTargets (r : Run ι) (targets : Except Node.Malformed (List (Target ι))) :
    Except Failure (Run ι) :=
  (targets.map fun ts ↦ r.registerAll (ts.map sighting)).mapError .malformed

/-- Enters what a single node says: declared variables and functions, calls, and assignments. -/
def visit (r : Run ι) (p : Place (Mark ι)) : Except Failure (Run ι) :=
  match Node.kind p.tree with
  | .var =>
    if (p.tree.children.head?.map Node.kind) = some .name then .ok (r.declareVariable p.tree.label)
    else .ok r
  | .call | .new => r.registerTargets (Node.callTargets p)
  | .assign _ => r.registerTargets (Node.assignmentTargets p.tree)
  | .function => do
    match ← Node.declaredName p with
    | some name =>
      pure (if name.isEmpty then r else r.declareFunction ⟨name, p.tree.label.position⟩)
    | none => pure r
  | _ => .ok r

def walkFrom (r : Run ι) : List (Place (Mark ι)) → Except Failure (Run ι)
  | [] => .ok r
  | p :: stack => do
    let r ← r.visit p
    walkFrom r (p.children ++ stack)
termination_by stack => Place.weight stack
decreasing_by
  have := Place.weight_children p
  simp only [Place.weight_append, Place.weight_cons]
  omega

/-- Visits all places below a place, the place itself excepted. -/
def walk (r : Run ι) (p : Place (Mark ι)) : Except Failure (Run ι) := r.walkFrom p.children

end Run

end CallAudit
