/-!
# Ordered trees

Trees whose nodes carry a label and an ordered list of children.  Both the concrete trees of the
grammar and the analysed trees are of this form; trees are listed in preorder, each row giving a
depth and a label.
-/

namespace CallAudit

inductive Tree (α : Type) where
  | node (label : α) (children : List (Tree α))

namespace Tree

variable {α : Type}

def label : Tree α → α
  | node label _ => label

def children : Tree α → List (Tree α)
  | node _ children => children

@[simp] theorem label_node (a : α) (ts : List (Tree α)) : (node a ts).label = a := rfl

@[simp] theorem children_node (a : α) (ts : List (Tree α)) : (node a ts).children = ts := rfl

mutual

def size : Tree α → Nat
  | node _ children => sizes children + 1

def sizes : List (Tree α) → Nat
  | [] => 0
  | t :: ts => size t + sizes ts

end

@[simp] theorem sizes_nil : sizes ([] : List (Tree α)) = 0 := rfl

@[simp] theorem sizes_cons (t : Tree α) (ts : List (Tree α)) :
    sizes (t :: ts) = t.size + sizes ts := rfl

theorem size_eq (t : Tree α) : t.size = sizes t.children + 1 := by
  cases t
  rfl

theorem size_pos (t : Tree α) : 0 < t.size := by
  rw [size_eq]
  omega

@[simp] theorem sizes_append (ts us : List (Tree α)) : sizes (ts ++ us) = sizes ts + sizes us := by
  induction ts with
  | nil => simp
  | cons t ts ih => simp [ih, Nat.add_assoc]

theorem size_le_sizes {t : Tree α} {ts : List (Tree α)} (h : t ∈ ts) : t.size ≤ sizes ts := by
  induction ts with
  | nil => simp at h
  | cons u ts ih =>
    rcases List.mem_cons.mp h with rfl | h
    · simp
    · have := ih h
      simp only [sizes_cons]
      omega

theorem sizes_le_of_sublist {ts us : List (Tree α)} (h : ts.Sublist us) : sizes ts ≤ sizes us := by
  induction h with
  | slnil => exact Nat.le_refl 0
  | cons u _ ih => exact Nat.le_trans ih (Nat.le_add_left _ _)
  | cons_cons u _ ih => exact Nat.add_le_add_left ih _

theorem sizes_eq_of_perm {ts us : List (Tree α)} (h : ts.Perm us) : sizes ts = sizes us := by
  induction h with
  | nil => rfl
  | cons t _ ih => rw [sizes_cons, sizes_cons, ih]
  | swap t u ts => simp only [sizes_cons]; omega
  | trans _ _ ih ih' => exact ih.trans ih'

mutual

/-- All labels of a tree, a node before its children. -/
def preorder : Tree α → List α
  | node label children => label :: preorders children

def preorders : List (Tree α) → List α
  | [] => []
  | t :: ts => preorder t ++ preorders ts

end

/-- Puts a row of depth `depth` in front of later rows: the deeper trees that follow it become its
children. -/
def absorb (depth : Nat) (label : α) (later : List (Nat × Tree α)) : List (Nat × Tree α) :=
  let deeper (entry : Nat × Tree α) : Bool := decide (depth < entry.1)
  (depth, node label ((later.takeWhile deeper).map Prod.snd)) :: later.dropWhile deeper

/-- The trees that rows of depth and label list in preorder. -/
def ofRows (rows : List (Nat × α)) : List (Tree α) :=
  (rows.foldr (fun row later ↦ absorb row.1 row.2 later) []).map Prod.snd

end Tree

end CallAudit
