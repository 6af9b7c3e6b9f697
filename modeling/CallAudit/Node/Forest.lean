import CallAudit.Node.Basic

/-!
# Forests under construction

Trees are put together node by node.  A node owns its children, and a child knows its owner and its
position there without keeping the owner alive: a node lives while a slot holds it or a living node
owns it.  A node whose owner has gone is free again and can be given to another.

Nodes are known by numbers that are never used twice.
-/

namespace CallAudit

namespace Node

/-- A node of a forest: its mark, its children, and the owner with the position among the owner's
children. -/
structure Cell where
  mark : Mark Unit
  children : List Nat
  link? : Option (Nat × Nat)

/-- Living nodes by their numbers, and the slots that hold nodes; `next` is the number of the next
node. -/
structure Forest where
  next : Nat
  cells : List (Nat × Cell)
  slots : List (Text × Nat)

namespace Forest

def empty : Forest := ⟨0, [], []⟩

def cell? (f : Forest) (id : Nat) : Option Cell := f.cells.lookup id

def slot? (f : Forest) (name : Text) : Option Nat := f.slots.lookup name

def childrenOf (f : Forest) (id : Nat) : List Nat := (f.cell? id).elim [] Cell.children

def reach (f : Forest) : Nat → List Nat → List Nat
  | 0, ids => ids
  | steps + 1, ids => ids ++ f.reach steps (ids.flatMap f.childrenOf)

/-- Removes the nodes that neither a slot nor a living node holds. -/
def sweep (f : Forest) : Forest :=
  let alive := f.reach f.cells.length (f.slots.map Prod.snd)
  { f with cells := f.cells.filter fun entry ↦ alive.contains entry.1 }

def release (f : Forest) (name : Text) : Forest :=
  { f with slots := f.slots.filter fun entry ↦ entry.1 != name }

def drop (f : Forest) (name : Text) : Forest := (f.release name).sweep

def make (f : Forest) (name : Text) (mark : Mark Unit) : Forest :=
  let f := f.release name
  sweep
    { next := f.next + 1
      cells := (f.next, ⟨mark, [], none⟩) :: f.cells
      slots := (name, f.next) :: f.slots }

/-- The owner of a node with the node's position, if the owner lives. -/
def owner? (f : Forest) (id : Nat) : Option (Nat × Nat) :=
  (f.cell? id).bind fun cell ↦ cell.link?.filter fun link ↦ (f.cell? link.1).isSome

def modify (f : Forest) (id : Nat) (change : Cell → Cell) : Forest :=
  { f with
    cells := f.cells.map fun entry ↦ if entry.1 = id then (entry.1, change entry.2) else entry }

def adopt (f : Forest) (owner child : Nat) : Forest :=
  let position := (f.childrenOf owner).length
  let linked := f.modify child fun cell ↦ { cell with link? := some (owner, position) }
  linked.modify owner fun cell ↦ { cell with children := cell.children ++ [child] }

/-- Gives a node to an owner as its last child; a node that has a living owner is refused.  The
forest that is left comes with the answer. -/
def attach (f : Forest) (owner child : Nat) : Except Malformed Unit × Forest :=
  match f.cell? child, f.owner? child with
  | some cell, some _ => (.error (.of .alreadyOwned cell.mark), f)
  | _, _ => (.ok (), f.adopt owner child)

def next? (f : Forest) (id : Nat) : Option Nat :=
  (f.owner? id).bind fun link ↦ (f.childrenOf link.1)[link.2 + 1]?

def tree? (f : Forest) : Nat → Nat → Option (Node Unit)
  | 0, _ => none
  | depth + 1, id =>
    (f.cell? id).map fun cell ↦ .node cell.mark (cell.children.filterMap (f.tree? depth))

def dump (f : Forest) (id : Nat) : Text := (f.tree? (f.cells.length + 1) id).elim [] Node.dump

end Forest

end Node

end CallAudit
