import CallAudit.Node.Forest
import Mathlib.Logic.Relation

/-!
# Ownership in forests

A forest that is put together from nothing stays a forest: its nodes are those that can be reached
from a slot, every child knows its owner and its position there, and no node comes below itself.
Only links upwards can be out of date.  They are harmless because the number of a node that has gone
is never used again.

The invariant `Consistent` is kept by emptying a slot, by adding a node and by giving away a free
one, each of which may leave nodes that no slot reaches.  Sweeping keeps it too and removes exactly
those.
-/

namespace CallAudit

namespace Node

namespace Forest

open Relation (ReflTransGen TransGen)

variable {f g : Forest}

def Has (f : Forest) (id : Nat) : Prop := (f.cell? id).isSome = true

def Owns (f : Forest) (p c : Nat) : Prop := c ∈ f.childrenOf p

def Alive (f : Forest) (id : Nat) : Prop :=
  ∃ name holder, f.slot? name = some holder ∧ ReflTransGen f.Owns holder id

/-- The owner that a node was given to last, alive or not, and the node's position there. -/
def link? (f : Forest) (id : Nat) : Option (Nat × Nat) := (f.cell? id).bind Cell.link?

/-! ### Cells and slots -/

theorem has_iff {id : Nat} : f.Has id ↔ ∃ cell, f.cell? id = some cell := Option.isSome_iff_exists

theorem getElem?_childrenOf_iff {p i c : Nat} :
    (f.childrenOf p)[i]? = some c ↔ ∃ cell, f.cell? p = some cell ∧ cell.children[i]? = some c := by
  unfold childrenOf
  cases f.cell? p with
  | none => simp
  | some cell => simp

theorem owns_iff {p c : Nat} : f.Owns p c ↔ ∃ i : Nat, (f.childrenOf p)[i]? = some c :=
  List.mem_iff_getElem?

theorem link?_eq_some_iff {id : Nat} {link : Nat × Nat} :
    f.link? id = some link ↔ ∃ cell, f.cell? id = some cell ∧ cell.link? = some link :=
  Option.bind_eq_some_iff

theorem owner?_eq_some_iff {id p i : Nat} :
    f.owner? id = some (p, i) ↔ f.link? id = some (p, i) ∧ f.Has p := by
  unfold owner? link? Has
  cases f.cell? id with
  | none => simp
  | some cell => simp [Option.filter_eq_some_iff]

theorem Owns.has {p c : Nat} (h : f.Owns p c) : f.Has p := by
  obtain ⟨i, hi⟩ := owns_iff.mp h
  obtain ⟨cell, hcell, -⟩ := getElem?_childrenOf_iff.mp hi
  exact has_iff.mpr ⟨cell, hcell⟩

theorem Has.mem_keys {id : Nat} (h : f.Has id) : id ∈ f.cells.map Prod.fst := by
  obtain ⟨entry, hentry, hid⟩ := List.lookup_isSome_iff.mp h
  exact List.mem_map.mpr ⟨entry, hentry, (eq_of_beq hid).symm⟩

section Lookup

variable {α β : Type} [BEq α] [LawfulBEq α]

theorem lookup_cons_of_ne {a k : α} (h : a ≠ k) (b : β) (entries : List (α × β)) :
    ((k, b) :: entries).lookup a = entries.lookup a := by
  rw [List.lookup_cons, beq_false_of_ne h]

theorem lookup_filter_fst (p : α → Bool) (entries : List (α × β)) (a : α) :
    (entries.filter fun entry ↦ p entry.1).lookup a = if p a then entries.lookup a else none := by
  induction entries with
  | nil => simp
  | cons entry entries ih =>
      obtain ⟨k, b⟩ := entry
      rw [List.filter_cons]
      by_cases hkey : a = k
      · subst hkey
        by_cases hp : p a = true
        · rw [if_pos hp, if_pos hp, List.lookup_cons_self, List.lookup_cons_self]
        · rw [if_neg hp, ih, if_neg hp, if_neg hp]
      · rw [lookup_cons_of_ne hkey]
        by_cases hp : p k = true
        · rw [if_pos hp, lookup_cons_of_ne hkey, ih]
        · rw [if_neg hp, ih]

theorem mem_iff_lookup_eq_some {entries : List (α × β)} (h : (entries.map Prod.fst).Nodup) {a : α}
    {b : β} :
    (a, b) ∈ entries ↔ entries.lookup a = some b := by
  induction entries with
  | nil => simp
  | cons entry entries ih =>
      obtain ⟨k, b'⟩ := entry
      obtain ⟨hk, hentries⟩ := List.nodup_cons.mp h
      by_cases hkey : a = k
      · subst hkey
        have hnot : (a, b) ∉ entries := fun hmem ↦ hk (List.mem_map.mpr ⟨(a, b), hmem, rfl⟩)
        rw [List.lookup_cons_self]
        simp [hnot, eq_comm]
      · rw [lookup_cons_of_ne hkey, ← ih hentries]
        simp [hkey]

end Lookup

theorem cell?_modify (f : Forest) (id : Nat) (change : Cell → Cell) (k : Nat) :
    (f.modify id change).cell? k = if k = id then (f.cell? k).map change else f.cell? k := by
  unfold modify cell?
  dsimp only
  induction f.cells with
  | nil => simp
  | cons entry entries ih =>
      obtain ⟨key, cell⟩ := entry
      rw [List.map_cons]
      by_cases hk : k = key
      · subst hk
        by_cases hid : k = id
        · simp [hid]
        · simp [hid]
      · by_cases hid : key = id
        · rw [if_pos hid, lookup_cons_of_ne hk, lookup_cons_of_ne hk, ih]
        · rw [if_neg hid, lookup_cons_of_ne hk, lookup_cons_of_ne hk, ih]

/-! ### What a sweep leaves -/

theorem subset_reach (f : Forest) (steps : Nat) (ids : List Nat) : ids ⊆ f.reach steps ids := by
  cases steps with
  | zero => exact List.Subset.refl ids
  | succ steps => exact List.subset_append_left _ _

theorem reach_mono (f : Forest) (steps : Nat) {ids more : List Nat} (h : ids ⊆ more) :
    f.reach steps ids ⊆ f.reach steps more := by
  induction steps generalizing ids more with
  | zero => exact h
  | succ steps ih =>
      intro id hid
      rcases List.mem_append.mp hid with hid | hid
      · exact List.mem_append_left _ (h hid)
      · refine List.mem_append_right _ (ih ?_ hid)
        intro c hc
        obtain ⟨p, hp, hc⟩ := List.mem_flatMap.mp hc
        exact List.mem_flatMap.mpr ⟨p, h hp, hc⟩

/-- What is reached in some steps lies below. -/
theorem exists_reflTransGen_of_mem_reach {steps : Nat} {ids : List Nat} {id : Nat}
    (h : id ∈ f.reach steps ids) :
    ∃ a ∈ ids, ReflTransGen f.Owns a id := by
  induction steps generalizing ids with
  | zero => exact ⟨id, h, .refl⟩
  | succ steps ih =>
      rcases List.mem_append.mp h with h | h
      · exact ⟨id, h, .refl⟩
      · obtain ⟨c, hc, hpath⟩ := ih h
        obtain ⟨p, hp, hc⟩ := List.mem_flatMap.mp hc
        exact ⟨p, hp, .head hc hpath⟩

/-- A way down takes no more steps than there are nodes with children on it, if it cannot come back
to a node. -/
theorem mem_reach_of_reflTransGen (hacyclic : ∀ p, ¬ TransGen f.Owns p p) {a id : Nat}
    (h : ReflTransGen f.Owns a id) :
    ∀ owners : List Nat, (∀ p c, ReflTransGen f.Owns a p → f.Owns p c → p ∈ owners) →
      id ∈ f.reach owners.length [a] := by
  induction h using ReflTransGen.head_induction_on with
  | refl =>
      intro owners _
      exact subset_reach f _ _ List.mem_cons_self
  | @head a c hac hpath ih =>
      intro owners howners
      have ha : a ∈ owners := howners a c .refl hac
      -- `a` is not below `c`, so the rest of the way makes do with the other owners
      have hrest : id ∈ f.reach (owners.erase a).length [c] := by
        apply ih
        intro p d hp hd
        have hne : p ≠ a := by
          rintro rfl
          exact hacyclic p (.head' hac hp)
        exact (List.mem_erase_of_ne hne).mpr (howners p d (.head hac hp) hd)
      have hlength : owners.length = (owners.erase a).length + 1 := by
        have := List.length_erase_of_mem ha
        have := List.length_pos_of_mem ha
        omega
      rw [hlength]
      refine List.mem_append_right _ (reach_mono f _ ?_ hrest)
      intro d hd
      rw [List.mem_singleton.mp hd]
      exact List.mem_flatMap.mpr ⟨a, List.mem_cons_self, hac⟩

/-- As many steps as there are nodes reach all living nodes, for no way down comes back to a
node. -/
theorem mem_reach_iff_alive (hslots : (f.slots.map Prod.fst).Nodup)
    (hacyclic : ∀ p, ¬ TransGen f.Owns p p) {id : Nat} :
    id ∈ f.reach f.cells.length (f.slots.map Prod.snd) ↔ f.Alive id := by
  constructor
  · intro h
    obtain ⟨holder, hholder, hpath⟩ := exists_reflTransGen_of_mem_reach h
    obtain ⟨⟨name, _⟩, hslot, rfl⟩ := List.mem_map.mp hholder
    exact ⟨name, _, (mem_iff_lookup_eq_some hslots).mp hslot, hpath⟩
  · rintro ⟨name, holder, hslot, hpath⟩
    have hmem : holder ∈ f.slots.map Prod.snd :=
      List.mem_map.mpr ⟨(name, holder), (mem_iff_lookup_eq_some hslots).mpr hslot, rfl⟩
    have hreach :=
      mem_reach_of_reflTransGen hacyclic hpath (f.cells.map Prod.fst) fun p c _ hc ↦ hc.has.mem_keys
    rw [List.length_map] at hreach
    exact reach_mono f _ (List.cons_subset.mpr ⟨hmem, List.nil_subset _⟩) hreach

/-! ### The invariant -/

/-- The links of a forest agree with its children, as far as they lead to nodes that are still
there. -/
structure Consistent (f : Forest) : Prop where
  names : (f.slots.map Prod.fst).Nodup
  held : ∀ {name id}, f.slot? name = some id → f.Has id
  numbered : ∀ {id}, f.Has id → id < f.next
  owned : ∀ {p i c}, (f.childrenOf p)[i]? = some c → f.link? c = some (p, i)
  linked : ∀ {c p i}, f.link? c = some (p, i) → f.Has p → (f.childrenOf p)[i]? = some c
  -- a number that is given out later cannot be taken for that of an owner that has gone
  stale : ∀ {c p i}, f.link? c = some (p, i) → p < f.next
  acyclic : ∀ p, ¬ TransGen f.Owns p p

namespace Consistent

theorem has_of_owns (h : f.Consistent) {p c : Nat} (hc : f.Owns p c) : f.Has c := by
  obtain ⟨i, hi⟩ := owns_iff.mp hc
  obtain ⟨cell, hcell, -⟩ := link?_eq_some_iff.mp (h.owned hi)
  exact has_iff.mpr ⟨cell, hcell⟩

theorem has_of_alive (h : f.Consistent) {id : Nat} (hid : f.Alive id) : f.Has id := by
  obtain ⟨name, holder, hslot, hpath⟩ := hid
  cases hpath with
  | refl => exact h.held hslot
  | tail _ hc => exact h.has_of_owns hc

theorem owner?_of_getElem? (h : f.Consistent) {p i c : Nat} (hc : (f.childrenOf p)[i]? = some c) :
    f.owner? c = some (p, i) :=
  owner?_eq_some_iff.mpr ⟨h.owned hc, (owns_iff.mpr ⟨i, hc⟩).has⟩

end Consistent

theorem Alive.child {p c : Nat} (hp : f.Alive p) (hc : f.Owns p c) : f.Alive c := by
  obtain ⟨name, holder, hslot, hpath⟩ := hp
  exact ⟨name, holder, hslot, hpath.tail hc⟩

section Sweep

theorem cell?_sweep_eq_some_iff (h : f.Consistent) {id : Nat} {cell : Cell} :
    f.sweep.cell? id = some cell ↔ f.Alive id ∧ f.cell? id = some cell := by
  rw [← mem_reach_iff_alive h.names h.acyclic]
  unfold sweep cell?
  rw [lookup_filter_fst]
  simp

theorem getElem?_childrenOf_sweep (h : f.Consistent) {p i c : Nat} :
    (f.sweep.childrenOf p)[i]? = some c ↔ f.Alive p ∧ (f.childrenOf p)[i]? = some c := by
  simp only [getElem?_childrenOf_iff, cell?_sweep_eq_some_iff h, and_assoc, exists_and_left]

theorem owns_sweep (h : f.Consistent) {p c : Nat} : f.sweep.Owns p c ↔ f.Alive p ∧ f.Owns p c := by
  simp only [owns_iff, getElem?_childrenOf_sweep h, exists_and_left]

theorem link?_sweep (h : f.Consistent) {id : Nat} {link : Nat × Nat} :
    f.sweep.link? id = some link ↔ f.Alive id ∧ f.link? id = some link := by
  simp only [link?_eq_some_iff, cell?_sweep_eq_some_iff h, and_assoc, exists_and_left]

theorem has_sweep (h : f.Consistent) {id : Nat} : f.sweep.Has id ↔ f.Alive id ∧ f.Has id := by
  simp only [has_iff, cell?_sweep_eq_some_iff h, exists_and_left]

/-- Of a living node all children live, so that sweeping tears nothing apart. -/
theorem Consistent.sweep (h : f.Consistent) : f.sweep.Consistent where
  names := h.names
  held := by
    intro name id hslot
    exact (has_sweep h).mpr ⟨⟨name, id, hslot, .refl⟩, h.held hslot⟩
  numbered := by
    intro id hid
    exact h.numbered ((has_sweep h).mp hid).2
  owned := by
    intro p i c hc
    obtain ⟨hp, hc⟩ := (getElem?_childrenOf_sweep h).mp hc
    exact (link?_sweep h).mpr ⟨hp.child (owns_iff.mpr ⟨i, hc⟩), h.owned hc⟩
  linked := by
    intro c p i hlink hp
    obtain ⟨-, hlink⟩ := (link?_sweep h).mp hlink
    obtain ⟨halive, hp⟩ := (has_sweep h).mp hp
    exact (getElem?_childrenOf_sweep h).mpr ⟨halive, h.linked hlink hp⟩
  stale := by
    intro c p i hlink
    exact h.stale ((link?_sweep h).mp hlink).2
  acyclic := by
    intro p hp
    exact h.acyclic p (TransGen.mono (fun _ _ hc ↦ ((owns_sweep h).mp hc).2) _ _ hp)

theorem alive_sweep (h : f.Consistent) {id : Nat} (hid : f.Alive id) : f.sweep.Alive id := by
  obtain ⟨name, holder, hslot, hpath⟩ := hid
  refine ⟨name, holder, hslot, ?_⟩
  induction hpath with
  | refl => exact .refl
  | tail hpath hc ih => exact ih.tail ((owns_sweep h).mpr ⟨⟨name, holder, hslot, hpath⟩, hc⟩)

theorem alive_of_has_sweep (h : f.Consistent) {id : Nat} (hid : f.sweep.Has id) :
    f.sweep.Alive id :=
  alive_sweep h ((has_sweep h).mp hid).1

end Sweep

/-! ### Steps -/

theorem Consistent.release (h : f.Consistent) (name : Text) : (f.release name).Consistent where
  names := h.names.sublist (List.Sublist.map _ List.filter_sublist)
  held := by
    intro n id hslot
    have hslot : (f.slots.filter fun entry ↦ entry.1 != name).lookup n = some id := hslot
    rw [lookup_filter_fst (· != name)] at hslot
    split at hslot
    · exact h.held hslot
    · cases hslot
  numbered := h.numbered
  owned := h.owned
  linked := h.linked
  stale := h.stale
  acyclic := h.acyclic

def insert (f : Forest) (name : Text) (mark : Mark Unit) : Forest :=
  ⟨f.next + 1, (f.next, ⟨mark, [], none⟩) :: f.cells, (name, f.next) :: f.slots⟩

theorem make_eq (f : Forest) (name : Text) (mark : Mark Unit) :
    f.make name mark = ((f.release name).insert name mark).sweep := rfl

section Insert

variable {name : Text} {mark : Mark Unit}

theorem cell?_insert_of_ne {id : Nat} (h : id ≠ f.next) :
    (f.insert name mark).cell? id = f.cell? id :=
  lookup_cons_of_ne h _ _

theorem cell?_insert_next : (f.insert name mark).cell? f.next = some ⟨mark, [], none⟩ :=
  List.lookup_cons_self

/-- The new node has no children, and its number had none before. -/
theorem childrenOf_insert (h : f.Consistent) (p : Nat) :
    (f.insert name mark).childrenOf p = f.childrenOf p := by
  unfold childrenOf
  by_cases hp : p = f.next
  · have hnone : f.cell? f.next = none := by
      cases hcell : f.cell? f.next with
      | none => rfl
      | some cell => exact absurd (h.numbered (has_iff.mpr ⟨cell, hcell⟩)) (Nat.lt_irrefl _)
    rw [hp, cell?_insert_next, hnone]
    rfl
  · rw [cell?_insert_of_ne hp]

theorem owns_insert (h : f.Consistent) : (f.insert name mark).Owns = f.Owns := by
  funext p c
  unfold Owns
  rw [childrenOf_insert h]

theorem link?_insert {id : Nat} {link : Nat × Nat}
    (hlink : (f.insert name mark).link? id = some link) :
    f.link? id = some link := by
  unfold link? at *
  by_cases hid : id = f.next
  · rw [hid, cell?_insert_next] at hlink
    cases hlink
  · rwa [cell?_insert_of_ne hid] at hlink

theorem has_insert {id : Nat} : (f.insert name mark).Has id ↔ id = f.next ∨ f.Has id := by
  unfold Has
  by_cases hid : id = f.next
  · simp [hid, cell?_insert_next]
  · simp [hid, cell?_insert_of_ne hid]

/-- A new number is neither owned nor linked to, since numbers are not used again. -/
theorem Consistent.insert (h : f.Consistent) (hname : f.slot? name = none) (mark : Mark Unit) :
    (f.insert name mark).Consistent where
  names := by
    refine List.nodup_cons.mpr ⟨?_, h.names⟩
    intro hmem
    obtain ⟨⟨_, id⟩, hslot, rfl⟩ := List.mem_map.mp hmem
    rw [slot?, (mem_iff_lookup_eq_some h.names).mp hslot] at hname
    cases hname
  held := by
    intro n id hslot
    rw [has_insert]
    by_cases hn : n = name
    · subst hn
      have hslot : some f.next = some id := List.lookup_cons_self.symm.trans hslot
      exact .inl (Option.some.inj hslot).symm
    · have hslot : ((name, f.next) :: f.slots).lookup n = some id := hslot
      rw [lookup_cons_of_ne hn] at hslot
      exact .inr (h.held hslot)
  numbered := by
    intro id hid
    rcases has_insert.mp hid with rfl | hid
    · exact Nat.lt_succ_self _
    · exact Nat.lt_succ_of_lt (h.numbered hid)
  owned := by
    intro p i c hc
    rw [childrenOf_insert h] at hc
    have hlink := h.owned hc
    have hne : c ≠ f.next := Nat.ne_of_lt (h.numbered (h.has_of_owns (owns_iff.mpr ⟨i, hc⟩)))
    rwa [link?, cell?_insert_of_ne hne]
  linked := by
    intro c p i hlink hp
    have hlink := link?_insert hlink
    rw [childrenOf_insert h]
    refine h.linked hlink ((has_insert.mp hp).resolve_left ?_)
    exact Nat.ne_of_lt (h.stale hlink)
  stale := by
    intro c p i hlink
    exact Nat.lt_succ_of_lt (h.stale (link?_insert hlink))
  acyclic := by
    rw [owns_insert h]
    exact h.acyclic

end Insert

section Attach

variable {owner child : Nat}

theorem cell?_adopt (k : Nat) :
    (f.adopt owner child).cell? k = (f.cell? k).map fun cell ↦
      { cell with
        children := if k = owner then cell.children ++ [child] else cell.children
        link? := if k = child then some (owner, (f.childrenOf owner).length) else cell.link? } := by
  unfold adopt
  rw [cell?_modify, cell?_modify]
  cases f.cell? k with
  | none => simp
  | some cell =>
      simp only [Option.map_some]
      split <;> split <;> rfl

theorem has_adopt {id : Nat} : (f.adopt owner child).Has id ↔ f.Has id := by
  unfold Has
  rw [cell?_adopt, Option.isSome_map]

theorem link?_adopt_child (hchild : f.Has child) :
    (f.adopt owner child).link? child = some (owner, (f.childrenOf owner).length) := by
  obtain ⟨cell, hcell⟩ := has_iff.mp hchild
  simp [link?, cell?_adopt, hcell]

theorem link?_adopt_of_ne {id : Nat} (h : id ≠ child) :
    (f.adopt owner child).link? id = f.link? id := by
  unfold link?
  rw [cell?_adopt]
  cases f.cell? id with
  | none => rfl
  | some cell => simp [h]

theorem childrenOf_adopt_owner (howner : f.Has owner) :
    (f.adopt owner child).childrenOf owner = f.childrenOf owner ++ [child] := by
  obtain ⟨cell, hcell⟩ := has_iff.mp howner
  simp [childrenOf, cell?_adopt, hcell]

theorem childrenOf_adopt_of_ne {p : Nat} (h : p ≠ owner) :
    (f.adopt owner child).childrenOf p = f.childrenOf p := by
  unfold childrenOf
  rw [cell?_adopt]
  cases f.cell? p with
  | none => rfl
  | some cell => simp [h]

theorem getElem?_childrenOf_adopt (howner : f.Has owner) {p i c : Nat} :
    ((f.adopt owner child).childrenOf p)[i]? = some c ↔
      (f.childrenOf p)[i]? = some c ∨ p = owner ∧ i = (f.childrenOf owner).length ∧ c = child := by
  by_cases hp : p = owner
  · subst hp
    rw [childrenOf_adopt_owner howner, List.getElem?_append]
    split
    · next hi =>
      have hne : i ≠ (f.childrenOf p).length := Nat.ne_of_lt hi
      simp [hne]
    · next hi =>
      rw [List.getElem?_eq_none (Nat.le_of_not_lt hi), List.getElem?_singleton]
      split
      · next h =>
        have heq : i = (f.childrenOf p).length := by omega
        simp [heq, eq_comm]
      · next h =>
        have hne : i ≠ (f.childrenOf p).length := by omega
        simp [hne]
  · rw [childrenOf_adopt_of_ne hp]
    simp [hp]

theorem owns_adopt (howner : f.Has owner) {p c : Nat} :
    (f.adopt owner child).Owns p c ↔ f.Owns p c ∨ p = owner ∧ c = child := by
  simp only [owns_iff, getElem?_childrenOf_adopt howner, exists_or, exists_and_left, exists_eq_left]

/-- A way down uses the new edge not at all or ends behind it. -/
theorem reflTransGen_adopt (howner : f.Has owner) {a b : Nat}
    (h : ReflTransGen (f.adopt owner child).Owns a b) :
    ReflTransGen f.Owns a b ∨ ReflTransGen f.Owns a owner ∧ ReflTransGen f.Owns child b := by
  induction h with
  | refl => exact .inl .refl
  | @tail b c _ hc ih =>
      rcases (owns_adopt howner).mp hc with hc | ⟨rfl, rfl⟩
      · exact ih.imp (·.tail hc) fun h ↦ ⟨h.1, h.2.tail hc⟩
      · exact .inr ⟨ih.elim id And.left, .refl⟩

/-- A way that leads back through the new child would lead from the child to its owner. -/
theorem acyclic_adopt (hacyclic : ∀ p, ¬ TransGen f.Owns p p) (howner : f.Has owner)
    (hbelow : ¬ ReflTransGen f.Owns child owner) (p : Nat) :
    ¬ TransGen (f.adopt owner child).Owns p p := by
  intro h
  obtain ⟨b, hpath, hlast⟩ := TransGen.tail'_iff.mp h
  rcases (owns_adopt howner).mp hlast with hlast | ⟨rfl, rfl⟩
  · rcases reflTransGen_adopt howner hpath with hpath | ⟨hup, hdown⟩
    · exact hacyclic p (.tail' hpath hlast)
    · exact hbelow ((hdown.tail hlast).trans hup)
  · rcases reflTransGen_adopt howner hpath with hpath | ⟨hup, -⟩
    · exact hbelow hpath
    · exact hbelow hup

/-- Giving a free node to an owner that is not below it keeps the invariant. -/
theorem Consistent.adopt (h : f.Consistent) (howner : f.Has owner) (hchild : f.Has child)
    (hfree : f.owner? child = none) (hbelow : ¬ ReflTransGen f.Owns child owner) :
    (f.adopt owner child).Consistent where
  names := h.names
  held := fun hslot ↦ has_adopt.mpr (h.held hslot)
  numbered := fun hid ↦ h.numbered (has_adopt.mp hid)
  owned := by
    intro p i c hc
    rcases (getElem?_childrenOf_adopt howner).mp hc with hbefore | ⟨rfl, rfl, rfl⟩
    · -- a free node is no child yet
      have hne : c ≠ child := by
        rintro rfl
        rw [h.owner?_of_getElem? hbefore] at hfree
        cases hfree
      rw [link?_adopt_of_ne hne]
      exact h.owned hbefore
    · exact link?_adopt_child hchild
  linked := by
    intro c p i hlink hp
    rw [getElem?_childrenOf_adopt howner]
    by_cases hc : c = child
    · subst hc
      rw [link?_adopt_child hchild] at hlink
      cases hlink
      exact .inr ⟨rfl, rfl, rfl⟩
    · rw [link?_adopt_of_ne hc] at hlink
      exact .inl (h.linked hlink (has_adopt.mp hp))
  stale := by
    intro c p i hlink
    by_cases hc : c = child
    · subst hc
      rw [link?_adopt_child hchild] at hlink
      cases hlink
      exact h.numbered howner
    · rw [link?_adopt_of_ne hc] at hlink
      exact h.stale hlink
  acyclic := acyclic_adopt h.acyclic howner hbelow

theorem alive_adopt (howner : f.Has owner) {id : Nat} (hid : f.Alive id) :
    (f.adopt owner child).Alive id := by
  obtain ⟨name, holder, hslot, hpath⟩ := hid
  refine ⟨name, holder, hslot, ReflTransGen.mono ?_ _ _ hpath⟩
  intro p c hc
  exact (owns_adopt howner).mpr (.inl hc)

end Attach

/-! ### Runs -/

inductive Action where
  | make (name : Text) (mark : Mark Unit)
  | attach (owner child : Nat)
  | drop (name : Text)

/-- The forest that an action leaves, also if it is refused. -/
def perform (f : Forest) : Action → Forest
  | .make name mark => f.make name mark
  | .attach owner child => (f.attach owner child).2
  | .drop name => f.drop name

/-- Only living nodes are given away, to living owners, and none to a node below it. -/
def Allowed (f : Forest) : Action → Prop
  | .attach owner child => f.Has owner ∧ f.Has child ∧ ¬ ReflTransGen f.Owns child owner
  | _ => True

inductive Reachable : Forest → Prop
  | empty : Reachable .empty
  | perform {f : Forest} (h : Reachable f) (action : Action) (hallowed : f.Allowed action) :
      Reachable (f.perform action)

theorem slot?_release (f : Forest) (name : Text) : (f.release name).slot? name = none := by
  unfold slot? release
  rw [lookup_filter_fst (· != name)]
  simp

/-- An attachment of a node with a living owner is refused, at the mark of the node, and changes
nothing. -/
theorem attach_of_owned {owner child : Nat} {cell : Cell} (hcell : f.cell? child = some cell)
    (howned : (f.owner? child).isSome = true) :
    f.attach owner child = (.error (.of .alreadyOwned cell.mark), f) := by
  obtain ⟨link, hlink⟩ := Option.isSome_iff_exists.mp howned
  rw [attach, hcell, hlink]

theorem attach_of_free {owner child : Nat} (hfree : f.owner? child = none) :
    f.attach owner child = (.ok (), f.adopt owner child) := by
  rw [attach, hfree]
  cases f.cell? child <;> rfl

/-- A node is refused if its owner lives, and given away otherwise. -/
theorem attach_cases (owner : Nat) {child : Nat} {cell : Cell} (hcell : f.cell? child = some cell) :
    ((f.owner? child).isSome = true ∧
        f.attach owner child = (.error (.of .alreadyOwned cell.mark), f)) ∨
      f.owner? child = none ∧ f.attach owner child = (.ok (), f.adopt owner child) := by
  cases howned : f.owner? child with
  | none => exact .inr ⟨rfl, attach_of_free howned⟩
  | some link => exact .inl ⟨rfl, attach_of_owned hcell (Option.isSome_of_eq_some howned)⟩

structure Settled (f : Forest) : Prop extends f.Consistent where
  alive : ∀ {id}, f.Has id → f.Alive id

theorem settled_empty : Forest.empty.Settled where
  names := List.nodup_nil
  held := by rintro _ _ ⟨⟩
  numbered := by rintro _ ⟨⟩
  owned := by rintro _ _ _ ⟨⟩
  linked := by rintro _ _ _ ⟨⟩
  stale := by rintro _ _ _ ⟨⟩
  acyclic := by
    intro p hp
    obtain ⟨c, hc, -⟩ := TransGen.head'_iff.mp hp
    cases hc
  alive := by rintro _ ⟨⟩

/-- The step: every action keeps the invariant, and leaves no node that no slot reaches. -/
theorem Settled.perform (h : f.Settled) {action : Action} (hallowed : f.Allowed action) :
    (f.perform action).Settled := by
  cases action with
  | make name mark =>
      have hinsert := (h.toConsistent.release name).insert (slot?_release f name) mark
      rw [Forest.perform, make_eq]
      exact ⟨hinsert.sweep, alive_of_has_sweep hinsert⟩
  | drop name =>
      have hrelease := h.toConsistent.release name
      exact ⟨hrelease.sweep, alive_of_has_sweep hrelease⟩
  | attach owner child =>
      obtain ⟨howner, hchild, hbelow⟩ := hallowed
      obtain ⟨cell, hcell⟩ := has_iff.mp hchild
      rw [Forest.perform]
      rcases attach_cases owner hcell with ⟨-, hattach⟩ | ⟨hfree, hattach⟩
      · rw [hattach]
        exact h
      · rw [hattach]
        refine ⟨h.adopt howner hchild hfree hbelow, ?_⟩
        intro id hid
        exact alive_adopt howner (h.alive (has_adopt.mp hid))

/-- The run: every forest that is put together from nothing is settled. -/
theorem settled_of_reachable (h : f.Reachable) : f.Settled := by
  induction h with
  | empty => exact settled_empty
  | perform _ _ hallowed ih => exact ih.perform hallowed

/-- An ordered forest: a node is there as long as it is alive, every child has its owner and its
position there, hence no second place, and the sibling that follows it there. -/
structure Ordered (f : Forest) : Prop where
  has_iff_alive : ∀ id, f.Has id ↔ f.Alive id
  owner : ∀ p i c : Nat, (f.childrenOf p)[i]? = some c → f.Has p ∧ f.Has c ∧
    f.owner? c = some (p, i)
  unique : ∀ p q i j c : Nat, (f.childrenOf p)[i]? = some c → (f.childrenOf q)[j]? = some c →
    p = q ∧ i = j
  next : ∀ p i c : Nat, (f.childrenOf p)[i]? = some c → f.next? c = (f.childrenOf p)[i + 1]?
  last : ∀ c, (∀ p, c ∉ f.childrenOf p) → f.next? c = none
  acyclic : ∀ p, ¬ TransGen f.Owns p p

theorem Consistent.isSome_owner?_iff (h : f.Consistent) {child : Nat} :
    (f.owner? child).isSome = true ↔ ∃ p, child ∈ f.childrenOf p := by
  constructor
  · intro howner
    obtain ⟨link, hlink⟩ := Option.isSome_iff_exists.mp howner
    obtain ⟨hlink, hp⟩ := owner?_eq_some_iff.mp hlink
    exact ⟨link.1, owns_iff.mpr ⟨link.2, h.linked hlink hp⟩⟩
  · rintro ⟨p, hp⟩
    obtain ⟨i, hi⟩ := owns_iff.mp hp
    rw [h.owner?_of_getElem? hi]
    rfl

theorem Consistent.owner?_eq_none (h : f.Consistent) {c : Nat} (hc : ∀ p, c ∉ f.childrenOf p) :
    f.owner? c = none := by
  rw [← Option.not_isSome_iff_eq_none, h.isSome_owner?_iff]
  rintro ⟨p, hp⟩
  exact hc p hp

theorem Settled.ordered (h : f.Settled) : f.Ordered where
  has_iff_alive := fun _ ↦ ⟨h.alive, h.has_of_alive⟩
  owner := by
    intro p i c hc
    have howns : f.Owns p c := owns_iff.mpr ⟨i, hc⟩
    exact ⟨howns.has, h.has_of_owns howns, h.owner?_of_getElem? hc⟩
  unique := by
    intro p q i j c hp hq
    have hlink : some (p, i) = some (q, j) := (h.owned hp).symm.trans (h.owned hq)
    cases hlink
    exact ⟨rfl, rfl⟩
  next := by
    intro p i c hc
    rw [next?, h.owner?_of_getElem? hc]
    rfl
  last := by
    intro c hc
    rw [next?, h.owner?_eq_none hc]
    rfl
  acyclic := h.acyclic

theorem Settled.exists_link_iff (h : f.Settled) {child : Nat} {cell : Cell}
    (hcell : f.cell? child = some cell) :
    (∃ p i, cell.link? = some (p, i) ∧ f.Alive p) ↔ ∃ p, child ∈ f.childrenOf p := by
  have hlink : f.link? child = cell.link? := by rw [link?, hcell, Option.bind_some]
  rw [← hlink]
  constructor
  · rintro ⟨p, i, hlink, hp⟩
    exact ⟨p, owns_iff.mpr ⟨i, h.linked hlink (h.has_of_alive hp)⟩⟩
  · rintro ⟨p, hp⟩
    obtain ⟨i, hi⟩ := owns_iff.mp hp
    exact ⟨p, i, h.owned hi, h.alive (Owns.has hp)⟩

/-- Whatever is done to the empty forest, it stays an ordered forest.  Giving away a living node is
refused, and changes nothing, exactly if the owner that it was given to last is alive, which is to
say if it is among the children of some node.  A free node becomes the last child of its owner, and
the children of all other nodes stay as they are. -/
theorem ordered_of_reachable (h : f.Reachable) :
    f.Ordered ∧
      ∀ owner child cell, f.Has owner → f.cell? child = some cell →
        (∀ e, (f.attach owner child).1 = .error e ↔
          e = .of .alreadyOwned cell.mark ∧ ∃ p i, cell.link? = some (p, i) ∧ f.Alive p) ∧
        (∀ e, (f.attach owner child).1 = .error e → (f.attach owner child).2 = f) ∧
        ((∃ p i, cell.link? = some (p, i) ∧ f.Alive p) ↔ ∃ p, child ∈ f.childrenOf p) ∧
        ((∀ p, child ∉ f.childrenOf p) → ∃ g, f.attach owner child = (.ok (), g) ∧
          g.childrenOf owner = f.childrenOf owner ++ [child] ∧
          ∀ p, p ≠ owner → g.childrenOf p = f.childrenOf p) := by
  have hsettled := settled_of_reachable h
  refine ⟨hsettled.ordered, ?_⟩
  intro owner child cell howner hcell
  have hlink := hsettled.exists_link_iff hcell
  refine ⟨?_, ?_, hlink, ?_⟩
  · intro e
    rw [hlink, ← hsettled.isSome_owner?_iff]
    rcases attach_cases owner hcell with ⟨howned, hattach⟩ | ⟨hfree, hattach⟩
    · simp [hattach, howned, eq_comm]
    · simp [hattach, hfree]
  · intro e hrefused
    rcases attach_cases owner hcell with ⟨-, hattach⟩ | ⟨-, hattach⟩
    · rw [hattach]
    · rw [hattach] at hrefused
      cases hrefused
  · intro hfree
    refine ⟨f.adopt owner child, attach_of_free (hsettled.owner?_eq_none hfree),
      childrenOf_adopt_owner howner, ?_⟩
    intro p hp
    exact childrenOf_adopt_of_ne hp

theorem not_reflTransGen_of_leaf {a b : Nat} (hleaf : f.childrenOf a = []) (hne : a ≠ b) :
    ¬ ReflTransGen f.Owns a b := by
  intro h
  rcases h.cases_head with h | ⟨c, hc, -⟩
  · exact hne h
  · rw [Owns, hleaf] at hc
    cases hc

def blockMark : Mark Unit := ⟨.block, "t.js", 1, none, none, none, ()⟩

def pair : Forest :=
  ((empty.perform (.make "a" blockMark)).perform (.make "b" blockMark)).perform (.attach 0 1)

/-- The child of a node that is dropped, given to another one. -/
def readopted : Forest :=
  ((pair.perform (.drop "a")).perform (.make "c" blockMark)).perform (.attach 2 1)

theorem ordered_of_reachable_readopted :
    readopted.Reachable ∧ readopted.owner? 1 = some (2, 0) ∧
      ∃ e, (readopted.attach 2 1).1 = .error e := by
  have hpair : pair.Reachable := by
    have hmade :=
      Reachable.empty.perform (.make "a" blockMark) trivial |>.perform (.make "b" blockMark) trivial
    refine hmade.perform (.attach 0 1) ⟨?_, ?_, ?_⟩
    · rfl
    · rfl
    · exact not_reflTransGen_of_leaf rfl (by decide)
  have hreadopted : readopted.Reachable := by
    have hmade := hpair.perform (.drop "a") trivial |>.perform (.make "c" blockMark) trivial
    refine hmade.perform (.attach 2 1) ⟨?_, ?_, ?_⟩
    · rfl
    · rfl
    · exact not_reflTransGen_of_leaf rfl (by decide)
  obtain ⟨hordered, hrefused⟩ := ordered_of_reachable hreadopted
  obtain ⟨hrefused, -, howner, -⟩ := hrefused 2 1 _ rfl rfl
  have hchild : (readopted.childrenOf 2)[0]? = some 1 := rfl
  exact ⟨hreadopted, (hordered.owner 2 0 1 hchild).2.2, _,
    (hrefused _).mpr ⟨rfl, howner.mpr ⟨2, List.mem_of_getElem? hchild⟩⟩⟩

end Forest

end Node

end CallAudit
