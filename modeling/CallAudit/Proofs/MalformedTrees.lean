import CallAudit.Proofs.CalleeSpine
import CallAudit.Proofs.RecursiveWalk

/-!
# Walks of malformed trees

Trees that are put together by hand need not have the shape that their kinds promise.  A call of a
property access is resolved exactly if every access that the resolver comes across is readable: it
has an object and a property, and the texts that are asked for are there.  A property that is no
string is not asked for its text unless the object is a call, so that such an access is passed over
in silence.  All other defects are reported with the node they are found at, except one: a function
that is assigned to an access without any children.
-/

namespace CallAudit

namespace Node

variable {ι : Type}

def HasText (n : Node ι) : Prop := n.label.string?.isSome = true

theorem succeeds_string_iff {n : Node ι} : Succeeds n.string ↔ n.HasText := by
  rw [HasText, string]
  cases n.label.string? with
  | none => simp [Succeeds]
  | some s => simp

/-! ### Property accesses -/

def HasCallee (call : Node ι) : Prop :=
  ∃ callee, call.children.head? = some callee ∧ (kind callee = .name → HasText callee)

/-- The texts that are asked for at an access: that of a string property, that of a plain name as
the object, and for a call as the object those of the property and of a plainly named callee. -/
structure HasTexts (object property : Node ι) : Prop where
  ofProperty : kind property = .string → HasText property
  ofName : kind object = .name → HasText object
  ofCall : kind object = .call → HasText property ∧ HasCallee object

/-- A property access that can be resolved, as far as the nodes at it tell. -/
def Readable (n : Node ι) : Prop :=
  n.kind = .getProp ∧ ∃ object property, n.children = [object, property] ∧ HasTexts object property

/-- The accesses that the resolver comes across, beginning with the first of some siblings: that
one, those further down its objects, and those that directly follow it. -/
inductive Reads : List (Node ι) → Node ι → Prop
  | first {n : Node ι} {siblings : List (Node ι)} : Reads (n :: siblings) n
  | object {m : Mark ι} {object property g : Node ι} {siblings : List (Node ι)}
      (hkind : m.kind = .getProp) (hobject : kind object = .getProp)
      (h : Reads [object, property] g) :
      Reads (.node m [object, property] :: siblings) g
  | next {n g : Node ι} {siblings : List (Node ι)} (hnext : siblings.head?.map kind = some .getProp)
      (h : Reads siblings g) : Reads (n :: siblings) g

theorem Reads.of_singleton {n g : Node ι} {siblings : List (Node ι)} (h : Reads [n] g) :
    Reads (n :: siblings) g := by
  cases h with
  | first => exact .first
  | object hkind hobject h => exact .object hkind hobject h
  | next hnext _ => cases hnext

theorem forall_reads_cons {P : Node ι → Prop} {n : Node ι} {siblings : List (Node ι)} :
    (∀ g, Reads (n :: siblings) g → P g) ↔
      (∀ g, Reads [n] g → P g) ∧ (siblings.head?.map kind = some .getProp → ∀ g, Reads siblings g →
        P g) := by
  constructor
  · intro h
    exact ⟨fun g hg ↦ h g hg.of_singleton, fun hnext g hg ↦ h g (.next hnext hg)⟩
  · rintro ⟨hown, hmore⟩ g hg
    cases hg with
    | first => exact hown _ .first
    | object hkind hobject h => exact hown g (.object hkind hobject h)
    | next hnext h => exact hmore hnext g h

theorem forall_reads_access {P : Node ι → Prop} {m : Mark ι} {object property : Node ι}
    (hkind : m.kind = .getProp) :
    (∀ g, Reads [.node m [object, property]] g → P g) ↔
      P (.node m [object, property]) ∧ (kind object = .getProp → ∀ g, Reads [object, property] g →
        P g) := by
  constructor
  · intro h
    exact ⟨h _ .first, fun hobject g hg ↦ h g (.object hkind hobject hg)⟩
  · rintro ⟨hown, hbelow⟩ g hg
    cases hg with
    | first => exact hown
    | object _ hobject h => exact hbelow hobject g h
    | next hnext _ => cases hnext

theorem succeeds_objectNames_iff {object property : Node ι} :
    Succeeds (objectNames object property) ↔
      (kind object = .name → HasText object) ∧
        (kind object = .call → HasText property ∧ HasCallee object) := by
  unfold objectNames
  cases hkind : kind object with
  | name =>
      dsimp only
      rw [Succeeds.bind_iff_and fun s ↦ iff_true_intro (Succeeds.pure [s]), succeeds_string_iff]
      simp
  | call =>
      dsimp only
      rw [Succeeds.bind_iff_and (P := HasCallee object), succeeds_string_iff]
      · simp
      · intro again
        unfold HasCallee
        cases object.children.head? with
        | none => simp [Succeeds]
        | some callee =>
            dsimp only
            split
            · next hname =>
              rw [Succeeds.bind_iff_and fun s ↦ iff_true_intro (Succeeds.pure [again, s]),
                succeeds_string_iff]
              simp [hname]
            · next hname => simp [hname]
  | _ => simp

/-- An access is readable if the texts that the resolver asks for at it are there. -/
theorem readable_node_iff {m : Mark ι} {object property : Node ι} (hkind : m.kind = .getProp) :
    Readable (.node m [object, property]) ↔
      (kind property = .string → HasText property) ∧ Succeeds (objectNames object property) := by
  rw [succeeds_objectNames_iff]
  constructor
  · rintro ⟨-, _, _, ⟨⟩, htexts⟩
    exact ⟨htexts.ofProperty, htexts.ofName, htexts.ofCall⟩
  · rintro ⟨hproperty, hname, hcall⟩
    exact ⟨hkind, object, property, rfl, hproperty, hname, hcall⟩

mutual

theorem succeeds_accessTargets_iff :
    ∀ n : Node ι, Succeeds (accessTargets n) ↔ ∀ g, Reads [n] g → Readable g
  | .node m children => by
      unfold accessTargets
      split
      · next object property hkind =>
        have hbelow := succeeds_chainTargets_iff [object, property]
        have hobject : kind object = .getProp → Succeeds (objectNames object property) := by
          intro h
          rw [succeeds_objectNames_iff, h]
          simp
        -- the object is read in the same way whatever the property adds
        have hrest (own : List Text) :
            Succeeds (if kind object = .getProp then do
                let below ← chainTargets [object, property]
                pure (targetsAt m own ++ below)
              else do
                let names ← objectNames object property
                pure (targetsAt m (own ++ names))) ↔
              Succeeds (objectNames object property) ∧
                (kind object = .getProp → ∀ g, Reads [object, property] g → Readable g) := by
          split
          · next h =>
            rw [Succeeds.bind_iff_and fun below ↦ iff_true_intro (Succeeds.pure _), and_true,
              hbelow]
            exact ⟨fun hreads ↦ ⟨hobject h, fun _ ↦ hreads⟩, fun hboth ↦ hboth.2 h⟩
          · next h =>
            rw [Succeeds.bind_iff_and fun names ↦ iff_true_intro (Succeeds.pure _), and_true]
            exact ⟨fun hnames ↦ ⟨hnames, fun h' ↦ absurd h' h⟩, And.left⟩
        rw [forall_reads_access hkind, readable_node_iff hkind, and_assoc]
        dsimp only
        split
        · next hstring =>
          refine (Succeeds.bind_iff_and fun s ↦ hrest [s]).trans ?_
          rw [succeeds_string_iff, imp_iff_right hstring]
        · next hstring =>
          refine (hrest []).trans (and_iff_right ?_).symm
          intro h
          exact absurd h hstring
      · next hno =>
        refine Iff.intro (by rintro ⟨targets, ⟨⟩⟩) fun h ↦ ?_
        obtain ⟨hkind, object, property, hchildren, -⟩ := h _ .first
        exact (hno object property hkind hchildren).elim

/-- A chain is resolved exactly if all accesses that are come across can be resolved. -/
theorem succeeds_chainTargets_iff :
    ∀ ns : List (Node ι), Succeeds (chainTargets ns) ↔ ∀ g, Reads ns g → Readable g
  | [] => by
      rw [chainTargets]
      exact Iff.intro (fun _ g hg ↦ by cases hg) fun _ ↦ Succeeds.ok []
  | access :: siblings => by
      rw [chainTargets, forall_reads_cons, ← succeeds_accessTargets_iff access]
      refine Succeeds.bind_iff_and fun own ↦ ?_
      dsimp only
      split
      · next hnext =>
        rw [Succeeds.bind_iff_and fun more ↦ iff_true_intro (Succeeds.pure _), and_true]
        exact (succeeds_chainTargets_iff siblings).trans (imp_iff_right hnext).symm
      · next hnext => simp [hnext]

end

def chain : Node ι → List (Node ι)
  | .node m [] => if m.kind = .getProp then [.node m []] else []
  | .node m (object :: rest) =>
      if m.kind = .getProp then .node m (object :: rest) :: chain object else []

theorem kind_of_mem_chain {n g : Node ι} (h : g ∈ chain n) : n.kind = .getProp := by
  obtain ⟨m, children⟩ := n
  by_cases hkind : m.kind = .getProp
  · exact hkind
  · cases children with
    | nil => simp [chain, hkind] at h
    | cons object rest => simp [chain, hkind] at h

/-- Unless an access above it is not readable, the resolver comes across every access of the
chain. -/
theorem reads_of_mem_chain {n g : Node ι} {siblings : List (Node ι)}
    (h : ∀ g, Reads (n :: siblings) g → Readable g) (hg : g ∈ chain n) :
    Reads (n :: siblings) g := by
  induction n using Tree.induction generalizing siblings with
  | node m children ih =>
      have hkind : m.kind = .getProp := kind_of_mem_chain hg
      obtain ⟨-, object, property, ⟨⟩, -⟩ := h _ .first
      rw [chain, if_pos hkind] at hg
      rcases List.mem_cons.mp hg with rfl | hg
      · exact .first
      · have hobject := kind_of_mem_chain hg
        refine .object hkind hobject (ih object List.mem_cons_self ?_ hg)
        intro g hg
        exact h g (.object hkind hobject hg)

/-- A call of a property access is resolved exactly if all accesses that are come across are
readable. -/
theorem succeeds_callTargets_iff {p : Place (Mark ι)} {callee : Node ι} {arguments : List (Node ι)}
    (hcall : IsCall p.tree) (hchildren : p.tree.children = callee :: arguments)
    (hcallee : callee.kind = .getProp) :
    Succeeds (callTargets p) ↔ ∀ g, Reads (callee :: arguments) g → Readable g := by
  rw [callTargets_eq hcall hchildren, calleeTargets, hcallee]
  exact succeeds_chainTargets_iff _

theorem exists_callee_of_succeeds {p : Place (Mark ι)} (hcall : IsCall p.tree)
    (h : Succeeds (callTargets p)) :
    ∃ callee arguments, p.tree.children = callee :: arguments := by
  obtain ⟨targets, htargets⟩ := h
  cases hchildren : p.tree.children with
  | cons callee arguments => exact ⟨callee, arguments, rfl⟩
  | nil =>
      unfold callTargets at htargets
      rcases hcall with hk | hk
      · simp [show kind p.tree = .call from hk, hchildren] at htargets
      · simp [show kind p.tree = .new from hk, hchildren] at htargets

/-! ### Functions without a name -/

/-- A function that is assigned to a property access without children. -/
def LacksTarget (p : Place (Mark ι)) : Prop :=
  kind p.tree = .function ∧ ∃ parent above, p.ancestors = parent :: above ∧
    (kind parent).isAssignment = true ∧
    ∃ target value, parent.children = [target, value] ∧ kind target = .getProp ∧
      target.children = []

theorem mapError_malformed_ne {α : Type} (x : Except Malformed α) :
    x.mapError Failure.malformed ≠ .error .noProperty := by
  cases x <;> simp

theorem targetName_eq_noProperty_iff {target : Node ι} :
    targetName target = .error .noProperty ↔ kind target = .getProp ∧ target.children = [] := by
  unfold targetName
  split
  · next hkind => simp [hkind, mapError_malformed_ne]
  · next hkind =>
    cases hlast : target.children.getLast? with
    | some property =>
        have hne : target.children ≠ [] := by
          intro h
          simp [h] at hlast
        simp [hkind, hne, mapError_malformed_ne]
    | none => simpa [hkind] using hlast
  · next hkind => exact Iff.intro (fun h ↦ by cases h) fun h ↦ (hkind h.1).elim

theorem declaredName_eq_noProperty_iff {p : Place (Mark ι)} (hkind : kind p.tree = .function) :
    declaredName p = .error .noProperty ↔ LacksTarget p := by
  unfold declaredName LacksTarget
  rw [if_pos hkind]
  cases p.ancestors with
  | nil => simp [mapError_malformed_ne]
  | cons parent above =>
      dsimp only
      split
      · next hassign =>
        obtain ⟨hassign, hlength⟩ := hassign
        obtain ⟨target, value, hchildren⟩ : ∃ target value, parent.children = [target, value] := by
          match parent.children, hlength with
          | [target, value], _ => exact ⟨target, value, rfl⟩
        rw [hchildren, List.head?_cons, Option.elim_some, targetName_eq_noProperty_iff]
        constructor
        · rintro ⟨htarget, hempty⟩
          exact ⟨hkind, parent, above, rfl, hassign, target, value, hchildren, htarget, hempty⟩
        · rintro ⟨-, _, _, ⟨⟩, -, _, _, h, htarget, hempty⟩
          rw [hchildren] at h
          cases h
          exact ⟨htarget, hempty⟩
      · next hassign =>
        refine Iff.intro (fun h ↦ ?_) ?_
        · split at h
          · exact (mapError_malformed_ne _ h).elim
          · exact (mapError_malformed_ne _ h).elim
        · rintro ⟨-, _, _, ⟨⟩, hisAssign, _, _, h, -⟩
          exact (hassign ⟨hisAssign, by rw [h]; rfl⟩).elim

end Node

namespace Run

open Node (Failure IsCall LacksTarget Mark Readable Reads chain)

variable {ι : Type}

/-- Only a function without a target fails without naming a node. -/
theorem finding_eq_noProperty_iff {p : Place (Mark ι)} :
    finding p = .error .noProperty ↔ LacksTarget p := by
  by_cases hkind : Node.kind p.tree = .function
  · rw [← Node.declaredName_eq_noProperty_iff hkind]
    unfold finding
    rw [hkind]
    cases Node.declaredName p with
    | error e => simp [Except.map]
    | ok name? => simp [Except.map]
  · refine Iff.intro (fun h ↦ ?_) fun h ↦ (hkind h.1).elim
    unfold finding at h
    split at h
    · cases h
    · exact (Node.mapError_malformed_ne _ h).elim
    · exact (Node.mapError_malformed_ne _ h).elim
    · exact (Node.mapError_malformed_ne _ h).elim
    · next hfunction => exact (hkind hfunction).elim
    · cases h

theorem succeeds_finding_iff {p : Place (Mark ι)} (hcall : IsCall p.tree) :
    Succeeds (finding p) ↔ Succeeds (Node.callTargets p) := by
  unfold finding
  rcases hcall with hk | hk
  · rw [show Node.kind p.tree = .call from hk]
    exact Succeeds.mapError_iff.trans Succeeds.map_iff
  · rw [show Node.kind p.tree = .new from hk]
    exact Succeeds.mapError_iff.trans Succeeds.map_iff

/-- A walk ends with the error of the first place that has one. -/
theorem walk_eq_error_iff {r : Run ι} {p : Place (Mark ι)} {e : Failure} :
    r.walk p = .error e ↔ ∃ q, FailsAt finding p.below q e := by
  rw [walk_eq, map_eq_error_iff, mapM_eq_error_iff]

theorem succeeds_walk_iff {r : Run ι} {p : Place (Mark ι)} :
    Succeeds (r.walk p) ↔ ∀ q ∈ p.below, Succeeds (finding q) := by
  rw [walk_eq, Succeeds.map_iff, Succeeds.mapM_iff]

/-- A call on the way of a walk that finishes has a callee, and the chain of accesses down from it
is readable. -/
theorem readable_of_succeeds_walk {r : Run ι} {p : Place (Mark ι)} (h : Succeeds (r.walk p))
    {call : Node ι} (hcall : call ∈ p.tree.descendants) (hkind : IsCall call) :
    ∃ callee arguments, call.children = callee :: arguments ∧ ∀ g ∈ chain callee, Readable g := by
  obtain ⟨q, hq, rfl⟩ := Place.exists_mem_below hcall
  have hq : Succeeds (Node.callTargets q) :=
    (succeeds_finding_iff hkind).mp (succeeds_walk_iff.mp h q hq)
  obtain ⟨callee, arguments, hchildren⟩ := Node.exists_callee_of_succeeds hkind hq
  refine ⟨callee, arguments, hchildren, fun g hg ↦ ?_⟩
  have hreads := (Node.succeeds_callTargets_iff hkind hchildren (Node.kind_of_mem_chain hg)).mp hq
  exact hreads g (Node.reads_of_mem_chain hreads hg)

/-- How the walk of any tree at all ends.  It fails without naming a node exactly if the first place
where something is wrong is a function assigned to an access without children; in a tree without
such functions it finishes or names the malformed node.  A call of a property access is resolved
exactly if the accesses that are come across are readable, so that a walk that finishes has found
every access down every callee to be so. -/
theorem walk_of_any_tree (r : Run ι) (p : Place (Mark ι)) :
    (r.walk p = .error .noProperty ↔ ∃ before q after, p.below = before ++ q :: after ∧
      (∀ o ∈ before, Succeeds (finding o)) ∧ LacksTarget q) ∧
    ((∀ q ∈ p.below, ¬ LacksTarget q) → Succeeds (r.walk p) ∨
      ∃ e, r.walk p = .error (.malformed e)) ∧
    (∀ q ∈ p.below, ∀ callee arguments, IsCall q.tree → q.tree.children = callee :: arguments →
      Node.kind callee = .getProp →
        (Succeeds (Node.callTargets q) ↔ ∀ g, Reads (callee :: arguments) g → Readable g)) ∧
    (Succeeds (r.walk p) → ∀ call ∈ p.tree.descendants, IsCall call → ∃ callee arguments,
      call.children = callee :: arguments ∧ ∀ g ∈ chain callee, Readable g) := by
  refine ⟨?_, ?_, ?_, ?_⟩
  · simp only [walk_eq_error_iff, FailsAt, finding_eq_noProperty_iff]
    constructor
    · rintro ⟨q, before, after, h⟩
      exact ⟨before, q, after, h⟩
    · rintro ⟨before, q, after, h⟩
      exact ⟨q, before, after, h⟩
  · intro htargets
    cases hwalk : r.walk p with
    | ok r' => exact .inl (Succeeds.ok r')
    | error e =>
        cases e with
        | malformed e => exact .inr ⟨e, rfl⟩
        | noProperty =>
            obtain ⟨q, before, after, hsplit, -, hq⟩ := walk_eq_error_iff.mp hwalk
            have hmem : q ∈ p.below := by simp [hsplit]
            exact (htargets q hmem (finding_eq_noProperty_iff.mp hq)).elim
  · intro q _ callee arguments hcall hchildren hcallee
    exact Node.succeeds_callTargets_iff hcall hchildren hcallee
  · intro hwalk call hmem hcall
    exact readable_of_succeeds_walk hwalk hmem hcall

def mark (kind : Node.Kind) (string? : Option Text) : Mark Unit :=
  ⟨kind, "t.js", 1, string?, none, none, ()⟩

/-- A call of `a.eval` in which the property is a name and not a string. -/
def misplacedName : Node Unit :=
  let access :=
    .node (mark .getProp none) [.node (mark .name (some "a")) [],
      .node (mark .name (some "eval")) []]
  .node (mark .script none) [.node (mark .call none) [access]]

/-- A function that is assigned to an access without an object and a property. -/
def emptyTarget : Node Unit :=
  let function := .node (mark .function none) [.node (mark .name (some "")) []]
  .node (mark .script none) [.node (mark (.assign .plain) none)
    [.node (mark .getProp none) [], function]]

theorem walk_of_any_tree_misplacedName :
    (∀ q ∈ (Place.root misplacedName).below, ¬ LacksTarget q) ∧
      (Succeeds ((start (.ofNames ["eval"]) true).walk (.root misplacedName)) ∨
        ∃ e, (start (.ofNames ["eval"]) true).walk (.root misplacedName) =
          .error (.malformed e)) := by
  have hkinds : ∀ n ∈ misplacedName.descendants, Node.kind n ≠ .function := by decide
  have htargets : ∀ q ∈ (Place.root misplacedName).below, ¬ LacksTarget q := by
    intro q hq hlacks
    exact hkinds q.tree (Place.tree_mem_descendants hq) hlacks.1
  exact ⟨htargets, (walk_of_any_tree _ _).2.1 htargets⟩

/-- The walk of a malformed tree can finish with a forbidden name unnoticed, and it can fail without
naming a node. -/
theorem walk_misses_malformed_accesses :
    ((start (.ofNames ["eval"]) true).walk (.root misplacedName)).map violations = .ok [] ∧
      (start (.ofNames ["eval"]) true).walk (.root emptyTarget) = .error .noProperty := by
  rw [walk_eq, walk_eq, Place.below_eq_descendants, Place.below_eq_descendants]
  exact ⟨rfl, rfl⟩

end Run

end CallAudit
