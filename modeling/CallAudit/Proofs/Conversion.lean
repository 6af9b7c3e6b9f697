import CallAudit.Node.Build
import CallAudit.Proofs.Subtrees
import CallAudit.Proofs.Success
import Mathlib.Data.List.Forall2

/-!
# The conversion as a recursion

The conversion of concrete trees works on a stack of unfinished nodes.  Here it is shown to be the
plain recursion over drafts: every draft becomes the node of its mark over the nodes that its parts
become, or nothing if it is of a skipped kind, and the first mark without a text ends it.
-/

namespace CallAudit

namespace Concrete

theorem mem_children_of_child? {t c : Concrete} {f : Field} (h : t.child? f = some c) :
    c ∈ t.children :=
  List.mem_of_find?_eq_some h

theorem mem_named {t c : Concrete} :
    c ∈ t.named ↔ c ∈ t.children ∧ c.label.named = true ∧ c.kind.isSkipped = false := by
  simp [named]

theorem mem_named_of_enclosed? {t inner : Concrete} (h : t.enclosed? = some inner) :
    inner ∈ t.named := by
  unfold enclosed? at h
  split at h
  · next hnamed =>
    obtain rfl := Option.some.inj h
    simp [hnamed]
  · simp at h

theorem enclosed?_of_ne {t : Concrete} (h : t.kind ≠ .parenthesizedExpression) :
    t.enclosed? = none := by
  unfold enclosed?
  split
  · next hkind _ => exact absurd hkind h
  · rfl

theorem unwrap_of_some {t inner : Concrete} (h : t.enclosed? = some inner) :
    t.unwrap = inner.unwrap := by
  rw [unwrap]
  split
  · next inner' h' => rw [Option.some.inj (h.symm.trans h')]
  · next h' => simp [h] at h'

theorem unwrap_of_none {t : Concrete} (h : t.enclosed? = none) : t.unwrap = t := by
  rw [unwrap]
  split
  · next inner' h' => simp [h] at h'
  · rfl

theorem unwrap_mem_subtrees (t : Concrete) : t.unwrap ∈ t.subtrees := by
  fun_induction unwrap t with
  | case1 t inner h ih =>
      have hmem := (mem_named.mp (mem_named_of_enclosed? h)).1
      exact Tree.mem_subtrees_trans ih (Tree.mem_subtrees_of_mem_children hmem)
  | case2 t h => exact Tree.mem_subtrees_self t

/-- Parentheses never enclose a node of a skipped kind. -/
theorem isSkipped_unwrap {t : Concrete} (ht : t.kind.isSkipped = false) :
    t.unwrap.kind.isSkipped = false := by
  fun_induction unwrap t with
  | case1 t inner h ih => exact ih (mem_named.mp (mem_named_of_enclosed? h)).2.2
  | case2 t h => exact ht

end Concrete

namespace Node

namespace Draft

theorem expand_source (file : Text) {t : Concrete} (h : t.kind.isSkipped = false) :
    (source t).expand file = some (t.unwrap.outline file) := by
  rw [expand, Concrete.isSkipped_unwrap h, if_neg Bool.false_ne_true]

/-- The analysed nodes that drafts become, in order. -/
def convert (file : Text) : List Draft → Except DecodeFault (List (Node Unit))
  | [] => .ok []
  | d :: ds =>
    match _h : d.expand file with
    | none => convert file ds
    | some o => do
      let mark ← o.mark
      let children ← convert file o.parts
      let rest ← convert file ds
      pure (.node mark children :: rest)
termination_by ds => weights ds
decreasing_by
  · have : 0 < d.weight := by cases d <;> simp [Tree.size_pos]
    simp only [weights_cons]
    omega
  · have := weights_expand _h
    simp only [weights_cons]
    omega
  · have := weights_expand _h
    simp only [weights_cons]
    omega

@[simp] theorem convert_nil (file : Text) : convert file [] = .ok [] := by rw [convert]

theorem convert_cons_of_none {file : Text} {d : Draft} (h : d.expand file = none)
    (ds : List Draft) :
    convert file (d :: ds) = convert file ds := by
  rw [convert]
  split
  · rfl
  · next o ho => simp [h] at ho

/-- The recursion of `convert`: mark, parts and later drafts may fail, in this order. -/
theorem convert_cons_of_some {file : Text} {d : Draft} {o : Outline} (h : d.expand file = some o)
    (ds : List Draft) :
    convert file (d :: ds) =
      o.mark.bind fun mark ↦ (convert file o.parts).bind fun children ↦
        (convert file ds).map (.node mark children :: ·) := by
  rw [convert]
  split
  · next ho => simp [h] at ho
  · next o' ho =>
    obtain rfl : o = o' := Option.some.inj (h.symm.trans ho)
    rfl

end Draft

/-- Hands a finished node to the frames that wait for it. -/
def resume (file : Text) (n : Node Unit) : List Frame → Except DecodeFault (Node Unit)
  | [] => .ok n
  | next :: rest => assemble file { next with built := n :: next.built } rest

theorem resume_cons (file : Text) (n : Node Unit) (next : Frame) (rest : List Frame) :
    resume file n (next :: rest) = assemble file { next with built := n :: next.built } rest := rfl

/-- The stack of frames computes the recursion: the parts of the top frame are converted and become,
behind the children built before, the children of the node that is handed on. -/
theorem assemble_eq (file : Text) (top : Frame) (below : List Frame) :
    assemble file top below =
      (Draft.convert file top.todo).bind fun cs ↦
        resume file (.node top.mark (top.built.reverse ++ cs)) below := by
  induction hwork : Frame.work (top :: below) using Nat.strongRecOn generalizing top below with
  | _ work ih =>
    subst hwork
    rw [assemble.eq_def]
    split
    · next htodo =>
      rw [htodo, Draft.convert_nil]
      cases below <;> simp [Except.bind, resume, Frame.finish]
    · next d todo htodo =>
      split
      · next hd =>
        have hpos := d.weight_pos
        rw [htodo, Draft.convert_cons_of_none hd, ih _ _ { top with todo } below rfl]
        simp only [Frame.work_cons, htodo, Draft.weights_cons]
        omega
      · next o hd =>
        have hlt := Draft.weights_expand hd
        rw [htodo, Draft.convert_cons_of_some hd]
        cases o.mark with
        | error fault => rfl
        | ok mark =>
            -- the new frame is finished first, and then the one below it goes on with one more
            -- child
            simp only
            rw [ih _ _ ⟨mark, [], o.parts⟩ ({ top with todo } :: below) rfl]
            · cases Draft.convert file o.parts with
              | error fault => rfl
              | ok cs =>
                  simp only [Except.bind, resume_cons]
                  rw [ih _ _ { top with todo, built := _ :: top.built } below rfl]
                  · cases Draft.convert file todo with
                    | error fault => rfl
                    | ok rest => simp [Except.bind, Except.map]
                  · simp only [Frame.work_cons, htodo, Draft.weights_cons]
                    omega
            · simp only [Frame.work_cons, htodo, Draft.weights_cons]
              omega

/-- The analysed tree of a concrete tree is what its draft becomes. -/
theorem ofConcrete_eq (file : Text) (t : Concrete) :
    ofConcrete file t = (Draft.convert file [.source t]).map List.head? := by
  unfold ofConcrete
  split
  · next h =>
    rw [Draft.convert_cons_of_none h, Draft.convert_nil]
    rfl
  · next o h =>
    rw [Draft.convert_cons_of_some h, Draft.convert_nil]
    cases o.mark with
    | error fault => rfl
    | ok mark =>
        simp only [assemble_eq]
        cases Draft.convert file o.parts with
        | error fault => rfl
        | ok cs => rfl

def BuiltFrom (file : Text) (o : Outline) (n : Node Unit) : Prop :=
  o.mark = .ok n.label ∧ Draft.convert file o.parts = .ok n.children

def Draft.outlines (file : Text) (ds : List Draft) : List Outline :=
  ds.filterMap (Draft.expand file)

/-- The nodes that drafts become are built one by one from their outlines. -/
theorem convert_eq_ok_iff (file : Text) (ds : List Draft) (ns : List (Node Unit)) :
    Draft.convert file ds = .ok ns ↔ List.Forall₂ (BuiltFrom file) (Draft.outlines file ds) ns := by
  induction ds generalizing ns with
  | nil => simp [Draft.outlines, eq_comm]
  | cons d ds ih =>
      unfold Draft.outlines at ih ⊢
      cases hd : d.expand file with
      | none => rw [Draft.convert_cons_of_none hd, List.filterMap_cons_none hd, ih]
      | some o =>
          rw [Draft.convert_cons_of_some hd, List.filterMap_cons_some hd]
          constructor
          · intro h
            obtain ⟨mark, hmark, h⟩ := bind_eq_ok_iff.mp h
            obtain ⟨children, hchildren, h⟩ := bind_eq_ok_iff.mp h
            obtain ⟨rest, hrest, rfl⟩ := map_eq_ok_iff.mp h
            exact .cons ⟨hmark, hchildren⟩ ((ih rest).mp hrest)
          · intro h
            obtain ⟨n, rest, ⟨hmark, hchildren⟩, hrest, rfl⟩ := List.forall₂_cons_left_iff.mp h
            rw [hmark, hchildren, (ih rest).mpr hrest]
            cases n
            rfl

/-- The marks of the nodes are those of the outlines. -/
theorem map_mark_outlines {file : Text} {ds : List Draft} {ns : List (Node Unit)}
    (h : Draft.convert file ds = .ok ns) :
    (Draft.outlines file ds).map Outline.mark = (ns.map Tree.label).map .ok := by
  have hbuilt := (convert_eq_ok_iff file ds ns).mp h
  generalize Draft.outlines file ds = os at hbuilt ⊢
  clear h
  induction hbuilt with
  | nil => rfl
  | cons hmark _ ih => simp [hmark.1, ih]

/-- The tree that is built is the one node that the draft of the concrete tree becomes. -/
theorem ofConcrete_eq_ok_iff {file : Text} {t : Concrete} {n : Node Unit} :
    ofConcrete file t = .ok (some n) ↔ Draft.convert file [.source t] = .ok [n] := by
  rw [ofConcrete_eq, map_eq_ok_iff]
  constructor
  · rintro ⟨ns, hns, hhead⟩
    obtain ⟨rest, rfl⟩ := List.head?_eq_some_iff.mp hhead
    have hlength := ((convert_eq_ok_iff file _ _).mp hns).length_eq
    have hle : (Draft.outlines file [.source t]).length ≤ 1 := List.length_filterMap_le ..
    rw [hlength, List.length_cons] at hle
    obtain rfl : rest = [] := List.eq_nil_of_length_eq_zero (by omega)
    exact hns
  · intro hns
    exact ⟨[n], hns, rfl⟩

end Node

end CallAudit
