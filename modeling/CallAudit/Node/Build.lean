import CallAudit.Node.Draft

/-!
# Building analysed trees

The conversion of a concrete tree keeps a stack of unfinished nodes, so that the nesting of a
program is not limited by anything but memory.  A finished node becomes the next child of the node
below it on the stack.
-/

namespace CallAudit

namespace Node

/-- An unfinished node: its mark, the children built so far from the last to the first, and the
parts still to be converted. -/
structure Frame where
  mark : Mark Unit
  built : List (Node Unit)
  todo : List Draft

namespace Frame

def finish (f : Frame) : Node Unit := .node f.mark f.built.reverse

def work : List Frame → Nat
  | [] => 0
  | f :: fs => Draft.weights f.todo + 1 + work fs

@[simp] theorem work_nil : work [] = 0 := rfl

@[simp] theorem work_cons (f : Frame) (fs : List Frame) :
    work (f :: fs) = Draft.weights f.todo + 1 + work fs := rfl

end Frame

/-- The mark and the parts of the node that a draft becomes; none if it is of a skipped kind. -/
def Draft.expand (file : Text) : Draft → Option Outline
  | .made mark parts => some ⟨mark, parts⟩
  | .source t => if t.unwrap.kind.isSkipped then none else some (t.unwrap.outline file)

theorem Draft.weights_expand {file : Text} {d : Draft} {o : Outline} (h : d.expand file = some o) :
    weights o.parts + 1 < d.weight := by
  unfold expand at h
  split at h
  · obtain rfl := Option.some.inj h
    simp
  · next t =>
    split at h
    · simp at h
    · obtain rfl := Option.some.inj h
      have := Concrete.weights_outline file t.unwrap
      have := Concrete.size_unwrap_le t
      rw [weight_source]
      omega

/-- Converts the parts of the top frame and then finishes the frames below it; the result is the
node of the lowest frame. -/
def assemble (file : Text) (top : Frame) (below : List Frame) : Except DecodeFault (Node Unit) :=
  match _htop : top.todo with
  | [] =>
    match below with
    | [] => .ok top.finish
    | next :: rest => assemble file { next with built := top.finish :: next.built } rest
  | d :: todo =>
    match _hd : d.expand file with
    | none => assemble file { top with todo } below
    | some o =>
      match o.mark with
      | .error fault => .error fault
      | .ok mark => assemble file ⟨mark, [], o.parts⟩ ({ top with todo } :: below)
termination_by Frame.work (top :: below)
decreasing_by
  · simp only [Frame.work_cons, _htop, Draft.weights_nil]
    omega
  · have : 0 < d.weight := by cases d <;> simp [Tree.size_pos]
    simp only [Frame.work_cons, _htop, Draft.weights_cons]
    omega
  · have := Draft.weights_expand _hd
    simp only [Frame.work_cons, _htop, Draft.weights_cons]
    omega

/-- The analysed tree of a concrete tree; none if the tree is of a skipped kind. -/
def ofConcrete (file : Text) (t : Concrete) : Except DecodeFault (Option (Node Unit)) :=
  match (Draft.source t).expand file with
  | none => .ok none
  | some o =>
    match o.mark with
    | .error fault => .error fault
    | .ok mark => (assemble file ⟨mark, [], o.parts⟩ []).map some

end Node

end CallAudit
