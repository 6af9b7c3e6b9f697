import CallAudit.Proofs.BuiltShape
import CallAudit.Proofs.NeededTexts
import CallAudit.Proofs.NodeNumbers
import CallAudit.Proofs.Ownership

/-!
# Conversion into a forest

The conversion can also be carried out node by node on a forest.  A draft waits on a stack together
with the node that is to own it.  When it is taken from there, its node is made and given to the
owner, and its parts are put on the stack to wait for the new node.  Nothing refers to a prepared
node before its draft is taken, so that it is made then.

A slot holds the root, which keeps all nodes alive, and a second slot the node that was made last.
No attachment is refused, and the tree at the root is the one that the recursion over drafts yields.
-/

namespace CallAudit

namespace Node

namespace Forest

open Relation
open Draft (convert converted)

/-- Makes a node and gives it to its owner; without an owner it becomes the root. -/
def place (f : Forest) (mark : Mark Unit) : Option Nat → Except Malformed Unit × Forest
  | none => (.ok (), f.make "root" mark)
  | some owner => (f.make "node" mark).attach owner f.next

inductive Halt where
  | undecodable (fault : DecodeFault)
  | refused (problem : Malformed)

/-- Takes drafts from the stack until it is empty, and lists the concrete nodes that are
converted. -/
def grow (file : Text) (f : Forest) (log : List Concrete) :
    List (Draft × Option Nat) → Except Halt (Forest × List Concrete)
  | [] => .ok (f, log)
  | (d, owner?) :: stack =>
    match _h : d.expand file with
    | none => grow file f log stack
    | some o =>
      match o.mark with
      | .error fault => .error (.undecodable fault)
      | .ok mark =>
        match f.place mark owner? with
        | (.error problem, _) => .error (.refused problem)
        | (.ok _, g) =>
            grow file g (log ++ d.origin?.toList) (o.parts.map (·, some f.next) ++ stack)
termination_by stack => Draft.weights (stack.map Prod.fst)
decreasing_by
  · have := d.weight_pos
    simp only [List.map_cons, Draft.weights_cons]
    omega
  · have := Draft.weights_expand _h
    simp only [List.map_append, List.map_map, Function.comp_def, List.map_id', List.map_cons,
      Draft.weights_append, Draft.weights_cons]
    omega

def build (file : Text) (t : Concrete) : Except Halt (Forest × List Concrete) :=
  grow file .empty [] [(.source t, none)]

section Equations

variable {file : Text} {f g : Forest} {d : Draft} {o : Outline} {mark : Mark Unit}
  {owner? : Option Nat}

theorem grow_nil (log : List Concrete) : grow file f log [] = .ok (f, log) := by rw [grow]

theorem grow_cons_of_none (hd : d.expand file = none) (log : List Concrete)
    (stack : List (Draft × Option Nat)) :
    grow file f log ((d, owner?) :: stack) = grow file f log stack := by
  rw [grow]
  split
  · rfl
  · next ho => simp [hd] at ho

theorem grow_cons_of_some (hd : d.expand file = some o) (hmark : o.mark = .ok mark)
    (hplace : f.place mark owner? = (.ok (), g)) (log : List Concrete)
    (stack : List (Draft × Option Nat)) :
    grow file f log ((d, owner?) :: stack) =
      grow file g (log ++ d.origin?.toList) (o.parts.map (·, some f.next) ++ stack) := by
  rw [grow]
  split
  · next ho => simp [hd] at ho
  · next o' ho =>
    obtain rfl : o = o' := Option.some.inj (hd.symm.trans ho)
    simp only [hmark, hplace]

end Equations

/-! ### Forests below a root -/

/-- All nodes are below the one that the root slot holds. -/
structure Rooted (f : Forest) (root : Nat) : Prop extends f.Consistent where
  slot : f.slot? "root" = some root
  below : ∀ {id}, f.Has id → ReflTransGen f.Owns root id

/-- Sweeping changes nothing where everything is alive. -/
theorem sweep_eq_self {f : Forest} (h : f.Consistent) (halive : ∀ {id}, f.Has id → f.Alive id) :
    f.sweep = f := by
  have hcells :
      (f.cells.filter fun entry ↦ (f.reach f.cells.length (f.slots.map Prod.snd)).contains
        entry.1) =
      f.cells := by
    apply List.filter_eq_self.mpr
    intro entry hentry
    have hhas : f.Has entry.1 := List.lookup_isSome_iff.mpr ⟨entry, hentry, beq_self_eq_true _⟩
    exact List.contains_iff_mem.mpr ((mem_reach_iff_alive h.names h.acyclic).mpr (halive hhas))
  rw [sweep, hcells]

def withNode (f : Forest) (mark : Mark Unit) : Forest := (f.release "node").insert "node" mark

section WithNode

variable {f : Forest} {mark : Mark Unit}

theorem cell?_withNode_next : (f.withNode mark).cell? f.next = some ⟨mark, [], none⟩ :=
  cell?_insert_next

theorem cell?_withNode_of_ne {k : Nat} (h : k ≠ f.next) : (f.withNode mark).cell? k = f.cell? k :=
  cell?_insert_of_ne h

theorem has_withNode {id : Nat} : (f.withNode mark).Has id ↔ id = f.next ∨ f.Has id := has_insert

theorem owns_withNode (h : f.Consistent) : (f.withNode mark).Owns = f.Owns :=
  owns_insert (h.release "node")

theorem Consistent.withNode (h : f.Consistent) : (f.withNode mark).Consistent :=
  (h.release "node").insert (slot?_release f "node") mark

theorem slot?_withNode : (f.withNode mark).slot? "root" = f.slot? "root" := by
  have hne : Text.ofString "root" ≠ Text.ofString "node" := by decide
  refine (lookup_cons_of_ne hne _ _).trans ?_
  unfold slot? release
  rw [lookup_filter_fst (· != Text.ofString "node")]
  simp [hne]

theorem owner?_withNode : (f.withNode mark).owner? f.next = none := by
  rw [owner?, cell?_withNode_next, Option.bind_some, Option.filter_none]

theorem not_below_withNode {p : Nat} (h : p ≠ f.next) :
    ¬ ReflTransGen (f.withNode mark).Owns f.next p := by
  apply not_reflTransGen_of_leaf _ h.symm
  rw [childrenOf, cell?_withNode_next, Option.elim_some]

end WithNode

namespace Rooted

variable {f : Forest} {root : Nat}

theorem settled (h : f.Rooted root) : f.Settled where
  toConsistent := h.toConsistent
  alive := fun hid ↦ ⟨"root", root, h.slot, h.below hid⟩

/-- A new node is held by its slot and all others by the root, so that none is swept away. -/
theorem make_eq_withNode (h : f.Rooted root) (mark : Mark Unit) :
    f.make "node" mark = f.withNode mark := by
  rw [make_eq]
  apply sweep_eq_self h.toConsistent.withNode
  intro id hid
  rcases has_withNode.mp hid with rfl | hid
  · exact ⟨"node", _, List.lookup_cons_self, .refl⟩
  · refine ⟨"root", root, slot?_withNode.trans h.slot, ?_⟩
    rw [owns_withNode h.toConsistent]
    exact h.below hid

/-- A new node given to a node below the root is below the root. -/
theorem adopt_withNode (h : f.Rooted root) {p : Nat} (hp : f.Has p) (mark : Mark Unit) :
    ((f.withNode mark).adopt p f.next).Rooted root := by
  have hne : p ≠ f.next := Nat.ne_of_lt (h.numbered hp)
  have howner : (f.withNode mark).Has p := has_withNode.mpr (.inr hp)
  have hchild : (f.withNode mark).Has f.next := has_withNode.mpr (.inl rfl)
  have hold : ∀ {id}, f.Has id → ReflTransGen ((f.withNode mark).adopt p f.next).Owns root id := by
    intro id hid
    refine ReflTransGen.mono ?_ _ _ (h.below hid)
    intro a b hab
    apply (owns_adopt howner).mpr
    rw [owns_withNode h.toConsistent]
    exact .inl hab
  refine ⟨h.toConsistent.withNode.adopt howner hchild owner?_withNode (not_below_withNode hne), ?_,
    ?_⟩
  · have hslot : (f.withNode mark).slot? "root" = f.slot? "root" := slot?_withNode
    exact hslot.trans h.slot
  · intro id hid
    rcases has_withNode.mp (has_adopt.mp hid) with rfl | hid
    · exact (hold hp).tail ((owns_adopt howner).mpr (.inr ⟨rfl, rfl⟩))
    · exact hold hid

end Rooted

structure Placed (f g : Forest) (p : Nat) (mark : Mark Unit) : Prop where
  next : g.next = f.next + 1
  length : g.cells.length = f.cells.length + 1
  fresh : ∃ link?, g.cell? f.next = some ⟨mark, [], link?⟩
  owner : g.cell? p = (f.cell? p).map fun cell ↦ { cell with children := cell.children ++ [f.next] }
  others : ∀ k < f.next, k ≠ p → g.cell? k = f.cell? k

theorem placed_adopt_withNode {f : Forest} {p : Nat} (hp : p ≠ f.next) (mark : Mark Unit) :
    Placed f ((f.withNode mark).adopt p f.next) p mark where
  next := rfl
  length := by simp [adopt, modify, withNode, insert, release]
  fresh := by
    refine ⟨some (p, ((f.withNode mark).childrenOf p).length), ?_⟩
    rw [cell?_adopt, cell?_withNode_next]
    simp [hp.symm]
  owner := by
    rw [cell?_adopt, cell?_withNode_of_ne hp]
    simp [hp]
  others := by
    intro k hk hkp
    have hkne : k ≠ f.next := Nat.ne_of_lt hk
    rw [cell?_adopt, cell?_withNode_of_ne hkne]
    simp [hkp, hkne]

/-- The step: below a root a new node can be given to any owner, and it is then below the root. -/
theorem Rooted.place {f : Forest} {root p : Nat} (h : f.Rooted root) (hp : f.Has p)
    (mark : Mark Unit) :
    ∃ g, f.place mark (some p) = (.ok (), g) ∧ g.Rooted root ∧ Placed f g p mark := by
  refine ⟨(f.withNode mark).adopt p f.next, ?_, h.adopt_withNode hp mark, ?_⟩
  · rw [Forest.place, h.make_eq_withNode]
    exact attach_of_free owner?_withNode
  · exact placed_adopt_withNode (Nat.ne_of_lt (h.numbered hp)) mark

/-! ### Trees in a forest -/

mutual

/-- A tree is found at a node, whose number and whose descendants' numbers are not less than a given
one. -/
def Holds (f : Forest) (least : Nat) (id : Nat) : Node Unit → Prop
  | .node mark children =>
    least ≤ id ∧ ∃ cell, f.cell? id = some cell ∧ cell.mark = mark ∧
      HoldsAll f least cell.children children

def HoldsAll (f : Forest) (least : Nat) : List Nat → List (Node Unit) → Prop
  | [], [] => True
  | id :: ids, n :: ns => Holds f least id n ∧ HoldsAll f least ids ns
  | _, _ => False

end

section Holds

variable {f g : Forest} {least least' : Nat}

mutual

/-- A tree stays where it is if its nodes do not change. -/
theorem Holds.frame (hleast : least ≤ least')
    (hcells : ∀ k, least' ≤ k → f.Has k → g.cell? k = f.cell? k) {id : Nat} :
    ∀ {n : Node Unit}, Holds f least' id n → Holds g least id n
  | .node mark children => by
      rintro ⟨hid, cell, hcell, hmark, hchildren⟩
      refine ⟨Nat.le_trans hleast hid, cell, ?_, hmark, HoldsAll.frame hleast hcells hchildren⟩
      rw [hcells id hid (has_iff.mpr ⟨cell, hcell⟩), hcell]

theorem HoldsAll.frame (hleast : least ≤ least')
    (hcells : ∀ k, least' ≤ k → f.Has k → g.cell? k = f.cell? k) :
    ∀ {ids : List Nat} {ns : List (Node Unit)}, HoldsAll f least' ids ns → HoldsAll g least ids ns
  | [], [], _ => trivial
  | _ :: _, _ :: _, h => ⟨Holds.frame hleast hcells h.1, HoldsAll.frame hleast hcells h.2⟩

end

mutual

/-- A tree that is found at a node is also what is read from there, if one goes deep enough. -/
theorem tree?_of_holds {depth id : Nat} :
    ∀ {n : Node Unit}, Holds f least id n → n.size ≤ depth → f.tree? depth id = some n
  | .node mark children => by
      rintro ⟨-, cell, hcell, hmark, hchildren⟩ hdepth
      obtain ⟨depth, rfl⟩ : ∃ d, depth = d + 1 := ⟨depth - 1, by rw [Tree.size] at hdepth; omega⟩
      have hsizes : Tree.sizes children ≤ depth := Nat.le_of_succ_le_succ hdepth
      rw [tree?, hcell, Option.map_some, hmark, filterMap_tree?_of_holdsAll hchildren hsizes]

theorem filterMap_tree?_of_holdsAll {depth : Nat} :
    ∀ {ids : List Nat} {ns : List (Node Unit)}, HoldsAll f least ids ns → Tree.sizes ns ≤ depth →
      ids.filterMap (f.tree? depth) = ns
  | [], [], _, _ => rfl
  | id :: ids, n :: ns, h, hdepth => by
      rw [Tree.sizes_cons] at hdepth
      rw [List.filterMap_cons_some (tree?_of_holds h.1 (by omega)),
        filterMap_tree?_of_holdsAll h.2 (by omega)]

end

end Holds

/-! ### The run -/

/-- What changes when trees are made below an owner: they become its last children, and the nodes
that were there before, the owner apart, stay as they are. -/
structure Grown (f g : Forest) (p : Nat) (ns : List (Node Unit)) : Prop where
  next_le : f.next ≤ g.next
  length : g.cells.length = f.cells.length + Tree.sizes ns
  owner : ∃ ids, HoldsAll g f.next ids ns ∧
    g.cell? p = (f.cell? p).map fun cell ↦ { cell with children := cell.children ++ ids }
  others : ∀ k < f.next, k ≠ p → g.cell? k = f.cell? k

section Run

variable {file : Text} {f g : Forest} {root p : Nat} {mark : Mark Unit} {ns : List (Node Unit)}

theorem Grown.nil (f : Forest) (p : Nat) : Grown f f p [] where
  next_le := Nat.le_refl _
  length := rfl
  owner := ⟨[], trivial, by simp⟩
  others := fun _ _ _ ↦ rfl

theorem Placed.has (h : Placed f g p mark) : g.Has f.next := by
  obtain ⟨link?, hcell⟩ := h.fresh
  exact has_iff.mpr ⟨_, hcell⟩

theorem Placed.has_owner (h : Placed f g p mark) (hp : f.Has p) : g.Has p := by
  obtain ⟨cell, hcell⟩ := has_iff.mp hp
  rw [Has, h.owner, hcell]
  rfl

/-- A node is placed, its children are made below it, and then the trees that follow it below the
same owner. -/
theorem Grown.cons {f₁ f₂ : Forest} {children : List (Node Unit)} (hp : p < f.next)
    (hplaced : Placed f f₁ p mark) (hchildren : Grown f₁ f₂ f.next children)
    (hconsistent : f₂.Consistent) (hrest : Grown f₂ g p ns) :
    Grown f g p (.node mark children :: ns) := by
  have hnext := hplaced.next
  have hle := hchildren.next_le
  obtain ⟨link?, hfresh⟩ := hplaced.fresh
  obtain ⟨below, hbelow, hnode⟩ := hchildren.owner
  obtain ⟨ids, hids, howner⟩ := hrest.owner
  have hkept : ∀ k, f₁.next ≤ k → f₂.Has k → g.cell? k = f₂.cell? k := by
    intro k hk hhas
    exact hrest.others k (hconsistent.numbered hhas) (by omega)
  refine ⟨?_, ?_, ⟨f.next :: ids, ⟨?_, ?_⟩, ?_⟩, ?_⟩
  · exact Nat.le_trans (by omega) hrest.next_le
  · rw [hrest.length, hchildren.length, hplaced.length, Tree.sizes_cons, Tree.size]
    omega
  · -- the new node has got its children and is not touched after that
    refine ⟨Nat.le_refl _, ⟨mark, below, link?⟩, ?_, rfl, HoldsAll.frame (by omega) hkept hbelow⟩
    rw [hrest.others f.next (by omega) (by omega), hnode, hfresh]
    rfl
  · exact HoldsAll.frame (by omega) (fun _ _ _ ↦ rfl) hids
  · rw [howner, hchildren.others p (by omega) (by omega), hplaced.owner, Option.map_map]
    simp [Function.comp_def]
  · intro k hk hkp
    rw [hrest.others k (by omega) hkp, hchildren.others k (by omega) (by omega),
      hplaced.others k hk hkp]

/-- The run: drafts on top of the stack become the last children of the node that waits for them,
and the stack below them is left. -/
theorem grow_eq {ds : List Draft} (hroot : f.Rooted root) (hp : f.Has p)
    (h : convert file ds = .ok ns) :
    ∃ g, g.Rooted root ∧ Grown f g p ns ∧ ∀ log stack,
      grow file f log (ds.map (·, some p) ++ stack) =
        grow file g (log ++ converted file ds) stack := by
  fun_induction convert file ds generalizing f p ns with
  | case1 =>
      obtain rfl := Except.ok.inj h
      exact ⟨f, hroot, .nil f p, by simp⟩
  | case2 d ds hd ih =>
      obtain ⟨g, hg, hgrown, hgrow⟩ := ih hroot hp h
      refine ⟨g, hg, hgrown, ?_⟩
      intro log stack
      rw [List.map_cons, List.cons_append, grow_cons_of_none hd, hgrow,
        Draft.converted_cons_of_none hd]
  | case3 d ds o hd ihparts ihds =>
      obtain ⟨mark, hmark, h⟩ := bind_eq_ok_iff.mp h
      obtain ⟨children, hchildren, h⟩ := bind_eq_ok_iff.mp h
      obtain ⟨rest, hrest, h⟩ := bind_eq_ok_iff.mp h
      obtain rfl := Except.ok.inj h
      obtain ⟨f₁, hplace, hroot₁, hplaced⟩ := hroot.place hp mark
      obtain ⟨f₂, hroot₂, hgrown₂, hgrow₂⟩ := ihparts hroot₁ hplaced.has hchildren
      have hp₂ : f₂.Has p := by
        have hlt := hroot.numbered hp
        rw [Has, hgrown₂.others p (by rw [hplaced.next]; omega) (Nat.ne_of_lt hlt)]
        exact hplaced.has_owner hp
      obtain ⟨g, hg, hgrown, hgrow⟩ := ihds hroot₂ hp₂ hrest
      refine ⟨g, hg, .cons (hroot.numbered hp) hplaced hgrown₂ hroot₂.toConsistent hgrown, ?_⟩
      intro log stack
      rw [List.map_cons, List.cons_append, grow_cons_of_some hd hmark hplace, hgrow₂, hgrow,
        Draft.converted_cons_of_some hd]
      simp only [List.append_assoc]

theorem make_root (mark : Mark Unit) :
    empty.make "root" mark = ⟨1, [(0, ⟨mark, [], none⟩)], [("root", 0)]⟩ := rfl

theorem rooted_root (mark : Mark Unit) : (empty.make "root" mark).Rooted 0 := by
  have hallowed : empty.Allowed (.make "root" mark) := trivial
  have hsettled : (empty.make "root" mark).Settled := settled_empty.perform hallowed
  refine ⟨hsettled.toConsistent, rfl, ?_⟩
  intro id hid
  obtain ⟨entry, hentry, heq⟩ := List.lookup_isSome_iff.mp hid
  rw [make_root, List.mem_singleton] at hentry
  obtain rfl : id = 0 := by simpa [hentry] using heq
  exact .refl

/-- A concrete tree becomes the tree at the root, and no attachment is refused on the way. -/
theorem build_eq {t : Concrete} {root? : Option (Node Unit)}
    (h : convert file [.source t] = .ok root?.toList) :
    ∃ f, build file t = .ok (f, converted file [.source t]) ∧ f.Ordered ∧
      (f.slot? "root").bind (f.tree? (f.cells.length + 1)) = root? := by
  cases hexpand : (Draft.source t).expand file with
  | none =>
      rw [Draft.convert_cons_of_none hexpand, Draft.convert_nil] at h
      obtain rfl : root? = none := Option.toList_eq_nil_iff.mp (Except.ok.inj h).symm
      refine ⟨empty, ?_, settled_empty.ordered, rfl⟩
      rw [build, grow_cons_of_none hexpand, grow_nil, Draft.converted_cons_of_none hexpand,
        Draft.converted_nil]
  | some o =>
      rw [Draft.convert_cons_of_some hexpand, Draft.convert_nil] at h
      obtain ⟨mark, hmark, h⟩ := bind_eq_ok_iff.mp h
      obtain ⟨children, hchildren, h⟩ := bind_eq_ok_iff.mp h
      have hmem : .node mark children ∈ root?.toList := Except.ok.inj h ▸ List.mem_singleton_self _
      obtain rfl : root? = some (.node mark children) := Option.mem_toList.mp hmem
      have hhas : (empty.make "root" mark).Has empty.next := rfl
      obtain ⟨g, hroot, hgrown, hgrow⟩ := grow_eq (rooted_root mark) hhas hchildren
      refine ⟨g, ?_, hroot.settled.ordered, ?_⟩
      · have hplace : empty.place mark none = (.ok (), empty.make "root" mark) := rfl
        have hrun := hgrow ([] ++ (Draft.source t).origin?.toList) []
        rw [build, grow_cons_of_some hexpand hmark hplace, hrun, grow_nil,
          Draft.converted_cons_of_some hexpand, Draft.converted_nil, List.nil_append,
          List.append_nil]
      · obtain ⟨ids, hids, howner⟩ := hgrown.owner
        have hholds : Holds g 0 0 (.node mark children) :=
          ⟨Nat.le_refl 0, ⟨mark, ids, none⟩, howner, rfl,
            hids.frame (Nat.zero_le _) fun _ _ _ ↦ rfl⟩
        rw [hroot.slot, Option.bind_some]
        apply tree?_of_holds hholds
        rw [hgrown.length, Tree.size]
        omega

end Run

end Forest

open Draft (convert converted)

variable {file : Text} {t : Concrete}

theorem convert_source_cases {ns : List (Node Unit)} (h : convert file [.source t] = .ok ns) :
    ∃ root? : Option (Node Unit), ns = root?.toList ∧
      (root? = none ↔ t.unwrap.kind.isSkipped = true) := by
  cases hexpand : (Draft.source t).expand file with
  | none =>
      rw [Draft.convert_cons_of_none hexpand, Draft.convert_nil] at h
      have hskipped : t.unwrap.kind.isSkipped = true := by simpa [Draft.expand] using hexpand
      exact ⟨none, (Except.ok.inj h).symm, iff_of_true rfl hskipped⟩
  | some o =>
      rw [Draft.convert_cons_of_some hexpand, Draft.convert_nil] at h
      obtain ⟨mark, -, h⟩ := bind_eq_ok_iff.mp h
      obtain ⟨children, -, h⟩ := bind_eq_ok_iff.mp h
      have hkept : ¬ t.unwrap.kind.isSkipped = true := by
        intro hskipped
        simp [Draft.expand, hskipped] at hexpand
      exact ⟨some (.node mark children), (Except.ok.inj h).symm,
        iff_of_false (Option.some_ne_none _) hkept⟩

variable (file t)

/-- The conversion succeeds exactly if the texts that it needs can be read.  It then yields what the
recursion over drafts yields, which is nothing for a tree of a skipped kind only, and so does the
conversion into a forest: no attachment is refused there, and the forest that is left is ordered.
All nodes name the file and a line on which a concrete node starts.  No concrete node is converted
twice, as is seen if the nodes are numbered. -/
theorem build_eq_recursion :
    (Succeeds (ofConcrete file t) ↔ ∀ u ∈ converted file [.source t], ∀ s ∈ u.neededTexts,
      Succeeds s.text) ∧
      ((∀ u ∈ converted file [.source t], ∀ s ∈ u.neededTexts, Succeeds s.text) →
        ∃ (root? : Option (Node Unit)) (f : Forest),
          convert file [.source t] = .ok root?.toList ∧
          ofConcrete file t = .ok root? ∧
          (root? = none ↔ t.unwrap.kind.isSkipped = true) ∧
          f.Ordered ∧
          Forest.build file t = .ok (f, converted file [.source t]) ∧
          (f.slot? "root").bind (f.tree? (f.cells.length + 1)) = root? ∧
          ∀ n ∈ root?, ∀ label ∈ n.preorder,
            label.file = file ∧ ∃ u ∈ t.subtrees, label.line = u.label.row + 1) ∧
      (converted file [.source t.numbered]).map Concrete.blank =
        (converted file [.source t]).map Concrete.blank ∧
      ((converted file [.source t.numbered]).map fun u ↦ u.label.column).Nodup := by
  refine ⟨?_, ?_, Draft.converted_numbered file t⟩
  · rw [ofConcrete_eq, Succeeds.map_iff]
    exact Draft.succeeds_convert_source_iff t
  · intro htexts
    obtain ⟨ns, hns⟩ := (Draft.succeeds_convert_source_iff t).mpr htexts
    obtain ⟨root?, rfl, hroot⟩ := convert_source_cases hns
    obtain ⟨f, hbuild, hordered, htree⟩ := Forest.build_eq hns
    refine ⟨root?, f, hns, ?_, hroot, hordered, hbuild, htree, ?_⟩
    · rw [ofConcrete_eq, hns]
      cases root? <;> rfl
    · rintro n ⟨⟩ label hlabel
      apply Draft.stamp_of_convert t hns
      simpa [Tree.preorders] using hlabel

/-- A call that lacks its callee, with the argument `(f)`, after a comment that is not UTF-8. -/
def brokenCall : Concrete :=
  .branch .program none [
    .node ⟨.comment, none, true, false, false, [0xFF], 0, 0⟩ [],
    .branch .callExpression none [
      .branch .arguments (some .arguments) [
        .branch .parenthesizedExpression none
          [.token none "(", .word .identifier none "f", .token none ")"]]]]

theorem build_eq_recursion_brokenCall :
    (∀ u ∈ converted "t.js" [.source brokenCall], ∀ s ∈ u.neededTexts, Succeeds s.text) ∧
      ∃ n f, ofConcrete "t.js" brokenCall = .ok (some n) ∧
        n.preorder.map Mark.kind = [.script, .call, .name] ∧
        Forest.build "t.js" brokenCall = .ok (f, converted "t.js" [.source brokenCall]) ∧
        (f.slot? "root").bind (f.tree? (f.cells.length + 1)) = some n := by
  have heval : (ofConcrete "t.js" brokenCall).map (Option.map fun n ↦ n.preorder.map Mark.kind) =
      .ok (some [.script, .call, .name]) := by
    decide +kernel
  obtain ⟨root?, hroot, hmap⟩ := map_eq_ok_iff.mp heval
  obtain ⟨n, rfl, hkinds⟩ := Option.map_eq_some_iff.mp hmap
  obtain ⟨hexact, hbuild, -⟩ := build_eq_recursion "t.js" brokenCall
  have htexts := hexact.mp ⟨_, hroot⟩
  obtain ⟨root?, f, -, hroot', -, -, hforest, htree, -⟩ := hbuild htexts
  obtain rfl : some n = root? := Except.ok.inj (hroot.symm.trans hroot')
  exact ⟨htexts, n, f, hroot, hkinds, hforest, htree⟩

end Node

end CallAudit
