import CallAudit.Resolve.Constant
import CallAudit.Tree.Place

/-!
# Names that a program refers to

What calls, assignments and function definitions say about names.  A target is a name with the node
that it is reported at.

A call of a property chain refers to every name along the chain, and to the chains that directly
follow it among its siblings.  An assignment makes its value callable under another name.
-/

namespace CallAudit

namespace Node

variable {ι : Type}

/-- A name that a node refers to, and the node it is reported at. -/
structure Target (ι : Type) where
  name : Text
  site : Mark ι

/-- Why the names of a node cannot be told: a node lacks the shape of its kind, or a function is
assigned to a property access that has no property. -/
inductive Failure where
  | malformed (cause : Malformed)
  | noProperty
  deriving DecidableEq

def targetsAt (site : Mark ι) (names : List Text) : List (Target ι) :=
  names.map fun name ↦ ⟨name, site⟩

/-- The names that the object of a property access adds: the property once more and a plainly named
callee for a call, and a plain name itself. -/
def objectNames (object property : Node ι) : Except Malformed (List Text) :=
  match kind object with
  | .call => do
    let again ← string property
    match object.children.head? with
    | none => .error (.of .noCallee object.label)
    | some callee => if kind callee = .name then do pure [again, ← string callee] else pure [again]
  | .name => do pure [← string object]
  | _ => pure []

mutual

/-- The targets of a property access: its property, and then those of its object. -/
def accessTargets : Node ι → Except Malformed (List (Target ι))
  | .node m children =>
    match m.kind, children with
    | .getProp, [object, property] => do
      let own ← if kind property = .string then do pure [← string property] else pure []
      if kind object = .getProp then
        let below ← chainTargets children
        pure (targetsAt m own ++ below)
      else
        let names ← objectNames object property
        pure (targetsAt m (own ++ names))
    | _, _ => .error (.of .notPropertyAccess m)

/-- The targets of the first of some siblings, a property access, and of the property accesses that
directly follow it. -/
def chainTargets : List (Node ι) → Except Malformed (List (Target ι))
  | [] => .ok []
  | access :: siblings => do
    let own ← accessTargets access
    let more ← if (siblings.head?.map kind) = some .getProp then chainTargets siblings else pure []
    pure (own ++ more)

end

def callTargets (p : Place (Mark ι)) : Except Malformed (List (Target ι)) :=
  let call := p.tree
  match kind call with
  | .getProp => chainTargets (call :: p.following)
  | .call | .new =>
    match call.children with
    | [] => .error (.of .noCallee call.label)
    | callee :: arguments =>
      match kind callee with
      | .getProp => chainTargets (callee :: arguments)
      | .name => do pure (targetsAt callee.label [← string callee])
      | .getElem => do pure (targetsAt call.label (← computedKey callee).toList)
      | _ => pure []
  | _ => .error (.of .notCall call.label)

/-- The kinds of values that can be called through the place they are assigned to. -/
def Kind.isCallable : Kind → Bool
  | .name | .getProp | .getElem | .function => true
  | _ => false

def Kind.isAssignment : Kind → Bool
  | .assign _ => true
  | _ => false

/-- The name that an assigned value refers to: a plain name, or the last part of a value that is
stored under a computed key, if that is a string. -/
def valueNames (target value : Node ι) : Except Malformed (List Text) :=
  if kind value = .name then do pure [← string value]
  else
    match value.children.getLast? with
    | some last =>
      if kind target = .getElem ∧ kind last = .string then do pure [← string last] else pure []
    | none => pure []

def keyNames (target value : Node ι) : Except Malformed (List Text) :=
  if kind target = .getElem ∧ (kind value).isCallable then do pure (← computedKey target).toList
  else pure []

def assignmentTargets (n : Node ι) : Except Malformed (List (Target ι)) :=
  if n.kind.isAssignment then
    match n.children with
    | target :: second :: rest => do
      let value := (second :: rest).getLast (by simp)
      let values ← valueNames target value
      let keys ← keyNames target value
      pure (targetsAt n.label (values ++ keys))
    | _ => pure []
  else .error (.of .notAssignment n.label)

/-- The name that the target of an assignment gives to a function; plain variables give none. -/
def targetName (target : Node ι) : Except Failure (Option Text) :=
  match kind target with
  | .getElem => (computedKey target).mapError .malformed
  | .getProp =>
    match target.children.getLast? with
    | some property => ((string property).map some).mapError .malformed
    | none => .error .noProperty
  | _ => .ok none

/-- The name that a function carries itself; an empty one does not count. -/
def ownName (n : Node ι) : Except Malformed (Option Text) :=
  match n.children.head? with
  | some name =>
    if kind name = .name then do
      let s ← string name
      pure (if s.isEmpty then none else some s)
    else .error (.of .unnamedFunction n.label)
  | none => .error (.of .unnamedFunction n.label)

/-- The name under which a function can be called: that of the property, key or variable it is
assigned to, or its own. -/
def declaredName (p : Place (Mark ι)) : Except Failure (Option Text) :=
  let own := (ownName p.tree).mapError Failure.malformed
  if kind p.tree = .function then
    match p.ancestors with
    | [] => own
    | parent :: above =>
      if (kind parent).isAssignment ∧ parent.children.length = 2 then
        (parent.children.head?).elim own targetName
      else if kind parent = .stringKey ∨
          kind parent = .name ∧ (above.head?.map kind) = some .var then
        ((string parent).map some).mapError .malformed
      else own
  else .error (.malformed (.of .notFunction p.tree.label))

end Node

end CallAudit
