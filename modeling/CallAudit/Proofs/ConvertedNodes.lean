import CallAudit.Proofs.Conversion
import Mathlib.Data.List.Flatten
import Mathlib.Data.List.Perm.Subperm

/-!
# The nodes that the conversion takes up

The drafts that wait for their conversion form a stack, and a draft that is taken from it leaves its
parts there.  The marks of the drafts in the order in which they are taken are the labels of the
resulting trees in preorder.

No concrete node is taken up twice, since the parts of a node lie at different places below it.
-/

namespace CallAudit

namespace Tree

variable {α : Type}

/-- All nodes of some trees are nodes of others, each at a place of its own. -/
def Within (ts us : List (Tree α)) : Prop := (subtreesAll ts).Subperm (subtreesAll us)

theorem subtreesAll_eq_flatMap (ts : List (Tree α)) : subtreesAll ts = ts.flatMap subtrees := by
  induction ts with
  | nil => rfl
  | cons t ts ih => rw [subtreesAll, ih, List.flatMap_cons]

theorem within_of_subperm {ts us : List (Tree α)} (h : ts.Subperm us) : Within ts us := by
  obtain ⟨vs, hperm, hsublist⟩ := h
  unfold Within
  rw [subtreesAll_eq_flatMap, subtreesAll_eq_flatMap]
  exact ⟨vs.flatMap subtrees, hperm.flatMap_right subtrees, hsublist.flatMap subtrees⟩

theorem Within.trans {ts us vs : List (Tree α)} (h : Within ts us) (h' : Within us vs) :
    Within ts vs :=
  List.Subperm.trans h h'

theorem Within.append {ts us ts' us' : List (Tree α)} (h : Within ts us) (h' : Within ts' us') :
    Within (ts ++ ts') (us ++ us') := by
  unfold Within
  rw [subtreesAll_append, subtreesAll_append]
  exact List.Subperm.append h h'

theorem within_refl (ts : List (Tree α)) : Within ts ts := List.Subperm.refl _

theorem within_nil (ts : List (Tree α)) : Within [] ts := List.nil_subperm

theorem within_children (t : Tree α) : Within t.children [t] := by
  apply List.Sublist.subperm
  rw [subtreesAll, subtreesAll, List.append_nil, subtrees_eq]
  exact List.sublist_cons_self t t.descendants

end Tree

namespace Concrete

open CallAudit.Tree (Within within_of_subperm)

/-- Different fields hold different children, so that the children in them can be taken together. -/
theorem within_fields (t : Concrete) {fs : List Field} (hfs : fs.Nodup) :
    Within (fs.flatMap fun f ↦ (t.child? f).toList) t.children :=
  within_of_subperm (t.exists_perm_fields fs hfs)

theorem within_named (t : Concrete) : Within t.named t.children :=
  within_of_subperm List.filter_sublist.subperm

/-- Looking through parentheses does not leave the tree. -/
theorem within_unwrap (t : Concrete) : Within [t.unwrap] [t] := by
  fun_induction unwrap t with
  | case1 t inner h ih =>
      have hinner : [inner].Subperm t.named :=
        List.singleton_subperm_iff.mpr (mem_named_of_enclosed? h)
      apply ih.trans
      apply (within_of_subperm hinner).trans
      exact t.within_named.trans (Tree.within_children t)
  | case2 t h => exact Tree.within_refl [t]

end Concrete

namespace Node

namespace Draft

mutual

def sources : Draft → List Concrete
  | source t => [t]
  | made _ parts => sourcesAll parts

def sourcesAll : List Draft → List Concrete
  | [] => []
  | d :: ds => sources d ++ sourcesAll ds

end

mutual

def marks : Draft → List (Except DecodeFault (Mark Unit))
  | source _ => []
  | made mark parts => mark :: marksAll parts

def marksAll : List Draft → List (Except DecodeFault (Mark Unit))
  | [] => []
  | d :: ds => marks d ++ marksAll ds

end

@[simp] theorem sourcesAll_append (ds es : List Draft) :
    sourcesAll (ds ++ es) = sourcesAll ds ++ sourcesAll es := by
  induction ds with
  | nil => rfl
  | cons d ds ih => simp [sourcesAll, ih]

@[simp] theorem sourcesAll_map_source (ts : List Concrete) : sourcesAll (ts.map source) = ts := by
  induction ts with
  | nil => rfl
  | cons t ts ih => simp [sourcesAll, sources, ih]

@[simp] theorem marksAll_append (ds es : List Draft) :
    marksAll (ds ++ es) = marksAll ds ++ marksAll es := by
  induction ds with
  | nil => rfl
  | cons d ds ih => simp [marksAll, ih]

@[simp] theorem marksAll_map_source (ts : List Concrete) : marksAll (ts.map source) = [] := by
  induction ts with
  | nil => rfl
  | cons t ts ih => simp [marksAll, marks, ih]

end Draft

def Outline.marks (o : Outline) : List (Except DecodeFault (Mark Unit)) :=
  o.mark :: Draft.marksAll o.parts

namespace Draft

/-- The drafts of a stack in the order in which they are taken from it, with their outlines, except
those of a skipped kind. -/
def pops (file : Text) : List Draft → List (Draft × Outline)
  | [] => []
  | d :: stack =>
    match _h : d.expand file with
    | none => pops file stack
    | some o => (d, o) :: pops file (o.parts ++ stack)
termination_by stack => weights stack
decreasing_by
  · have := d.weight_pos
    simp only [weights_cons]
    omega
  · have := weights_expand _h
    simp only [weights_append, weights_cons]
    omega

/-- The concrete node that a draft is taken up for, within its parentheses. -/
def origin? : Draft → Option Concrete
  | source t => some t.unwrap
  | made .. => none

def converted (file : Text) (stack : List Draft) : List Concrete :=
  (pops file stack).filterMap fun pop ↦ pop.1.origin?

variable {file : Text} {d : Draft} {o : Outline}

@[simp] theorem pops_nil : pops file [] = [] := by rw [pops]

theorem pops_cons_of_none (h : d.expand file = none) (stack : List Draft) :
    pops file (d :: stack) = pops file stack := by
  rw [pops]
  split
  · rfl
  · next ho => simp [h] at ho

theorem pops_cons_of_some (h : d.expand file = some o) (stack : List Draft) :
    pops file (d :: stack) = (d, o) :: pops file (o.parts ++ stack) := by
  rw [pops]
  split
  · next ho => simp [h] at ho
  · next o' ho => rw [Option.some.inj (h.symm.trans ho)]

/-- What is on top of the stack is done with before anything below it is taken. -/
theorem pops_append (ds stack : List Draft) :
    pops file (ds ++ stack) = pops file ds ++ pops file stack := by
  fun_induction pops file ds with
  | case1 => rfl
  | case2 d ds h ih => rw [List.cons_append, pops_cons_of_none h, ih]
  | case3 d ds o h ih =>
      rw [List.cons_append, pops_cons_of_some h, ← List.append_assoc, ih, List.cons_append]

@[simp] theorem converted_nil :
    converted file [] = [] := by rw [converted, pops_nil, List.filterMap_nil]

theorem converted_append (ds stack : List Draft) :
    converted file (ds ++ stack) = converted file ds ++ converted file stack := by
  rw [converted, pops_append, List.filterMap_append]
  rfl

theorem converted_cons_of_none (h : d.expand file = none) (stack : List Draft) :
    converted file (d :: stack) = converted file stack := by
  rw [converted, pops_cons_of_none h]
  rfl

theorem converted_cons_of_some (h : d.expand file = some o) (stack : List Draft) :
    converted file (d :: stack) = d.origin?.toList ++
      (converted file o.parts ++ converted file stack) := by
  rw [← converted_append, converted, pops_cons_of_some h, List.filterMap_cons]
  cases d.origin? with
  | none => rfl
  | some t => rfl

/-- The marks of the drafts that are taken from the stack are the labels of the trees in
preorder. -/
theorem map_mark_pops {ds : List Draft} {ns : List (Node Unit)} (h : convert file ds = .ok ns) :
    (pops file ds).map (fun pop ↦ pop.2.mark) = (Tree.preorders ns).map .ok := by
  fun_induction convert file ds generalizing ns with
  | case1 =>
      obtain rfl := Except.ok.inj h
      simp [Tree.preorders]
  | case2 d ds hd ih =>
      rw [pops_cons_of_none hd]
      exact ih h
  | case3 d ds o hd ihparts ihds =>
      obtain ⟨mark, hmark, h⟩ := bind_eq_ok_iff.mp h
      obtain ⟨children, hchildren, h⟩ := bind_eq_ok_iff.mp h
      obtain ⟨rest, hrest, h⟩ := bind_eq_ok_iff.mp h
      obtain rfl := Except.ok.inj h
      rw [pops_cons_of_some hd, pops_append, List.map_cons, List.map_append, ihparts hchildren,
        ihds hrest, hmark]
      simp [Tree.preorders, Tree.preorder]

/-- The conversion succeeds if all drafts that are taken from the stack have a mark, and only
then. -/
theorem succeeds_convert_iff (ds : List Draft) :
    Succeeds (convert file ds) ↔ ∀ pop ∈ pops file ds, Succeeds pop.2.mark := by
  constructor
  · rintro ⟨ns, hns⟩ pop hpop
    have hmark : pop.2.mark ∈ (pops file ds).map fun pop ↦ pop.2.mark := List.mem_map_of_mem hpop
    rw [map_mark_pops hns] at hmark
    obtain ⟨mark, -, hmark⟩ := List.mem_map.mp hmark
    exact ⟨mark, hmark.symm⟩
  · intro h
    fun_induction convert file ds with
    | case1 => exact .ok []
    | case2 d ds hd ih =>
        rw [pops_cons_of_none hd] at h
        exact ih h
    | case3 d ds o hd ihparts ihds =>
        rw [pops_cons_of_some hd, pops_append, List.forall_mem_cons, List.forall_mem_append] at h
        obtain ⟨⟨mark, hmark⟩, hparts, hds⟩ := h
        obtain ⟨children, hchildren⟩ := ihparts hparts
        obtain ⟨rest, hrest⟩ := ihds hds
        exact ⟨.node mark children :: rest, by rw [hmark, hchildren, hrest]; rfl⟩

theorem outline_of_expand_source {t : Concrete} (h : (source t).expand file = some o) :
    t.unwrap.outline file = o := by
  rw [expand] at h
  split at h
  · cases h
  · exact Option.some.inj h

/-- Every draft that is taken from the stack was prepared on it or for one of the nodes that are
converted. -/
theorem forall_pops_iff (P : Except DecodeFault (Mark Unit) → Prop) (ds : List Draft) :
    (∀ pop ∈ pops file ds, P pop.2.mark) ↔
      (∀ mark ∈ marksAll ds, P mark) ∧
        ∀ u ∈ converted file ds, ∀ mark ∈ (u.outline file).marks, P mark := by
  fun_induction pops file ds with
  | case1 => simp [marksAll, converted]
  | case2 d ds hd ih =>
      rw [ih, converted_cons_of_none hd]
      cases d with
      | source t => simp [marksAll, marks]
      | made mark parts => cases hd
  | case3 d ds o hd ih =>
      rw [converted_cons_of_some hd, List.forall_mem_cons, ih, marksAll_append, converted_append]
      cases d with
      | source t =>
          have ho := outline_of_expand_source hd
          simp only [marksAll, marks, List.nil_append, origin?, Option.toList_some,
            List.singleton_append, List.forall_mem_append, List.forall_mem_cons, ho, Outline.marks]
          tauto
      | made mark parts =>
          obtain rfl := Option.some.inj hd
          simp only [marksAll, marks, List.cons_append, origin?, Option.toList_none,
            List.nil_append, List.forall_mem_append, List.forall_mem_cons]
          tauto

end Draft

end Node

/-! ### Places -/

namespace Concrete

open Node (Draft)
open Node.Draft (sources sourcesAll)
open CallAudit.Tree (Within within_of_subperm within_refl within_nil)

variable (file : Text) (t : Concrete)

@[simp] theorem sourcesAll_namedParts : sourcesAll t.namedParts = t.named :=
  Draft.sourcesAll_map_source _

@[simp] theorem sourcesAll_fieldPart (f : Field) :
    sourcesAll (t.fieldPart f) = (t.child? f).toList :=
  Draft.sourcesAll_map_source _

theorem within_fieldPart (f : Field) : Within (sourcesAll (t.fieldPart f)) t.children := by
  rw [sourcesAll_fieldPart]
  simpa using t.within_fields (show [f].Nodup by simp)

theorem within_fieldParts {f g : Field} (h : f ≠ g) :
    Within (sourcesAll (t.fieldPart f ++ t.fieldPart g)) t.children := by
  have hnodup : [f, g].Nodup := by simpa using h
  simpa using t.within_fields hnodup

theorem within_argumentParts :
    Within (sourcesAll t.argumentParts) (t.child? .arguments).toList := by
  unfold argumentParts
  split
  · exact within_nil _
  · next args h =>
    rw [h]
    split
    · rw [sourcesAll_namedParts]
      exact args.within_named.trans (Tree.within_children args)
    · exact within_refl [args]

theorem within_call {f : Field} (h : f ≠ .arguments) :
    Within (sourcesAll (t.fieldPart f ++ t.argumentParts)) t.children := by
  have hnodup : [f, .arguments].Nodup := by simpa using h
  have hfields := t.within_fields hnodup
  rw [List.flatMap_cons, List.flatMap_singleton] at hfields
  rw [Draft.sourcesAll_append, sourcesAll_fieldPart]
  exact ((within_refl _).append t.within_argumentParts).trans hfields

theorem within_declarator : Within (t.declarator file).sources [t] := by
  unfold declarator
  split
  · split
    · exact (t.within_fieldPart .value).trans (Tree.within_children t)
    · exact (t.within_fieldParts (by decide)).trans (Tree.within_children t)
  · exact within_refl [t]

theorem within_declarators (ts : List Concrete) :
    Within (sourcesAll (ts.map (declarator file))) ts := by
  induction ts with
  | nil => exact within_nil []
  | cons t ts ih => exact (t.within_declarator file).append ih

theorem within_parameterPart :
    Within (t.parameterPart file).sources ((t.child? .parameters).toList ++
      (t.child? .parameter).toList) := by
  unfold parameterPart
  split
  · exact within_nil _
  · next params hparams =>
    have hmem : params ∈ (t.child? .parameters).toList ++ (t.child? .parameter).toList := by
      rw [List.mem_append, Option.mem_toList, Option.mem_toList]
      rcases Option.or_eq_some_iff.mp hparams with h | ⟨-, h⟩
      · exact .inl h
      · exact .inr h
    have hparams := within_of_subperm (List.singleton_subperm_iff.mpr hmem)
    rw [sources]
    split
    · rw [sourcesAll_namedParts]
      exact (params.within_named.trans (Tree.within_children params)).trans hparams
    · exact hparams

theorem within_functionParts (name : Except DecodeFault Text) :
    Within (sourcesAll (t.functionParts file name))
      ([Field.parameters, .parameter, .body].flatMap fun f ↦ (t.child? f).toList) := by
  have hparts := (t.within_parameterPart file).append (within_refl (t.child? .body).toList)
  simpa [functionParts, sourcesAll, sources] using hparts

/-- The step: the parts of a node lie at different places below it. -/
theorem within_outline : Within (sourcesAll (t.outline file).parts) t.children := by
  have hnamed := t.within_named
  rw [← sourcesAll_namedParts] at hnamed
  cases hkind : t.kind with
  | identifier | shorthandPropertyIdentifierPattern | propertyIdentifier | privatePropertyIdentifier
  | string | shorthandPropertyIdentifier =>
      simp only [outline, hkind]
      exact within_nil _
  | number =>
      simp only [outline, hkind]
      split
      · exact within_nil _
      · exact within_nil _
      · exact hnamed
  | callExpression | newExpression =>
      simp only [outline, hkind]
      exact t.within_call (by decide)
  | memberExpression =>
      have hprop :
          sourcesAll ((t.child? .property).toList.map fun p ↦
            Draft.made (p.markText file .string p.text) []) =
          [] := by
        cases t.child? .property <;> rfl
      simp only [outline, hkind, Draft.sourcesAll_append, hprop, List.append_nil]
      exact t.within_fieldPart .object
  | subscriptExpression | assignmentExpression | binaryExpression | augmentedAssignmentExpression =>
      simp only [outline, hkind]
      exact t.within_fieldParts (by decide)
  | variableDeclaration | lexicalDeclaration =>
      simp only [outline, hkind]
      exact (within_declarators file t.named).trans t.within_named
  | functionDeclaration | functionExpression | function | generatorFunctionDeclaration
  | generatorFunction | arrowFunction =>
      simp only [outline, hkind]
      exact (t.within_functionParts file _).trans (t.within_fields (by decide))
  | methodDefinition =>
      have hfunction := t.within_functionParts file (.ok [])
      simp only [outline, hkind]
      split
      · simpa [sourcesAll, sources] using hfunction.trans (t.within_fields (by decide))
      · have hfields :=
          t.within_fields (show [Field.name, .parameters, .parameter, .body].Nodup by decide)
        have hparts := ((within_refl (t.child? .name).toList).append hfunction).trans hfields
        simpa [sourcesAll, sources] using hparts
  | pair =>
      simp only [outline, hkind]
      split
      · exact t.within_fieldPart .value
      · exact t.within_fieldParts (by decide)
  | _ =>
      simp only [outline, hkind]
      exact hnamed

end Concrete

namespace Node

namespace Draft

variable (file : Text)

/-- The run: the nodes that are converted are at different places of the nodes on the stack. -/
theorem converted_subperm (ds : List Draft) :
    (converted file ds).Subperm (Tree.subtreesAll (sourcesAll ds)) := by
  fun_induction pops file ds with
  | case1 =>
      rw [converted_nil]
      exact List.nil_subperm
  | case2 d ds hd ih =>
      rw [converted_cons_of_none hd, sourcesAll, Tree.subtreesAll_append]
      exact ih.trans (List.sublist_append_right _ _).subperm
  | case3 d ds o hd ih =>
      rw [converted_cons_of_some hd, ← converted_append]
      rw [sourcesAll_append, Tree.subtreesAll_append] at ih
      rw [sourcesAll, Tree.subtreesAll_append]
      cases d with
      | source t =>
          obtain rfl := outline_of_expand_source hd
          -- the node within the parentheses, with what lies below it, is a place of its own below
          -- `t`
          have hbelow :
              (t.unwrap :: Tree.subtreesAll (sourcesAll (t.unwrap.outline file).parts)).Subperm
              (Tree.subtreesAll [t.unwrap]) := by
            rw [Tree.subtreesAll, Tree.subtreesAll, List.append_nil, Tree.subtrees_eq]
            exact (List.subperm_cons _).mpr (t.unwrap.within_outline file)
          have hrest :=
            (hbelow.trans t.within_unwrap).append
              (List.Subperm.refl (Tree.subtreesAll (sourcesAll ds)))
          exact ((List.subperm_cons t.unwrap).mpr ih).trans hrest
      | made mark parts =>
          obtain rfl := Option.some.inj hd
          exact ih

/-- No place of a tree is converted twice. -/
theorem converted_source_subperm (t : Concrete) :
    (converted file [.source t]).Subperm t.subtrees := by
  simpa [sourcesAll, sources, Tree.subtreesAll] using converted_subperm file [.source t]

end Draft

end Node

end CallAudit
