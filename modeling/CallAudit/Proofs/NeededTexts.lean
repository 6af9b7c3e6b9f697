import CallAudit.Proofs.ConvertedNodes

/-!
# Texts that the conversion needs

For every concrete node that is converted some nodes are made, each of which starts where a concrete
node does and may need the text of one.  The conversion succeeds exactly if these texts can be read,
and what it makes names the file and a line of the concrete tree.
-/

namespace CallAudit

namespace Concrete

open Node (Draft)
open Node.Draft (marks marksAll)

/-- For a node that is made: the concrete node at which it starts, and the one whose text it
needs. -/
structure Making where
  start : Concrete
  text? : Option Concrete

variable (file : Text) (t : Concrete)

def declaratorMakings : List Making :=
  if t.kind = .variableDeclarator then
    match (t.child? .name).filter (·.kind = .identifier) with
    | some name => [⟨name, some name⟩]
    | none => [⟨t, none⟩]
  else []

def functionMakings (name? : Option Concrete) : List Making :=
  [⟨t, name?⟩, ⟨t.parameters?.getD t, none⟩]

def writtenKey? (f : Field) : Option Concrete := (t.child? f).filter fun key ↦ key.keyText?.isSome

/-- The nodes that are made for a concrete node, before its parts are converted. -/
def makings : List Making :=
  match t.kind with
  | .identifier | .shorthandPropertyIdentifierPattern | .propertyIdentifier
  | .privatePropertyIdentifier | .string | .number => [⟨t, some t⟩]
  | .shorthandPropertyIdentifier => [⟨t, some t⟩, ⟨t, some t⟩]
  | .memberExpression => ⟨t, none⟩ :: (t.child? .property).toList.map fun p ↦ ⟨p, some p⟩
  | .variableDeclaration | .lexicalDeclaration => ⟨t, none⟩ :: t.named.flatMap declaratorMakings
  | .functionDeclaration | .functionExpression | .function | .generatorFunctionDeclaration
  | .generatorFunction | .arrowFunction => ⟨t, none⟩ :: t.functionMakings (t.child? .name)
  | .methodDefinition => ⟨t, t.writtenKey? .name⟩ :: ⟨t, none⟩ :: t.functionMakings none
  | .pair => [⟨t, t.writtenKey? .key⟩]
  | _ => [⟨t, none⟩]

/-- The nodes whose texts are needed to convert a node, apart from those needed for its parts. -/
def neededTexts : List Concrete := t.makings.filterMap Making.text?

/-- A mark that names the file and a line of `t`, and that is there if the text it needs can be
read. -/
structure Makes (mark : Except DecodeFault (Node.Mark Unit)) (m : Making) : Prop where
  start : m.start ∈ t.subtrees
  stamp : Yields mark fun label ↦ label.file = file ∧ label.line = m.start.line
  readable : Succeeds mark ↔ ∀ s ∈ m.text?, Succeeds s.text

variable {file t}

theorem makes_ok {mark : Node.Mark Unit} {u : Concrete} (hu : u ∈ t.subtrees)
    (hmark : mark.file = file ∧ mark.line = u.line) : Makes file t (.ok mark) ⟨u, none⟩ :=
  ⟨hu, .ok hmark, iff_of_true (.ok mark) (by simp)⟩

theorem makes_text {u : Concrete} (hu : u ∈ t.subtrees) {k : Node.Kind}
    {x : Except DecodeFault Text} {text? : Option Concrete}
    (hx : Succeeds x ↔ ∀ s ∈ text?, Succeeds s.text) :
    Makes file t (u.markText file k x) ⟨u, text?⟩ :=
  ⟨hu, .map fun _ _ ↦ ⟨rfl, rfl⟩, Succeeds.map_iff.trans hx⟩

theorem makes_own {u : Concrete} (hu : u ∈ t.subtrees) {k : Node.Kind} :
    Makes file t (u.markText file k u.text) ⟨u, some u⟩ :=
  makes_text hu (by simp)

@[simp] theorem marksAll_namedParts : marksAll t.namedParts = [] := Draft.marksAll_map_source _

@[simp] theorem marksAll_fieldPart (f : Field) : marksAll (t.fieldPart f) = [] :=
  Draft.marksAll_map_source _

@[simp] theorem marksAll_argumentParts : marksAll t.argumentParts = [] := by
  unfold argumentParts
  split
  · rfl
  · split
    · exact marksAll_namedParts
    · rfl

theorem mem_subtrees_of_child? {c : Concrete} {f : Field} (h : t.child? f = some c) :
    c ∈ t.subtrees :=
  Tree.mem_subtrees_of_mem_children (mem_children_of_child? h)

theorem makes_declarators {ts : List Concrete} (hts : ∀ c ∈ ts, c ∈ t.subtrees) :
    List.Forall₂ (Makes file t) (marksAll (ts.map (declarator file)))
      (ts.flatMap declaratorMakings) := by
  induction ts with
  | nil => exact .nil
  | cons c ts ih =>
      obtain ⟨hc, hts⟩ := List.forall_mem_cons.mp hts
      rw [List.map_cons, marksAll, List.flatMap_cons]
      refine List.rel_append ?_ (ih hts)
      unfold declarator declaratorMakings
      split
      · cases hname : (c.child? .name).filter (·.kind = .identifier) with
        | none =>
            simp only [marks, Draft.marksAll_append, marksAll_fieldPart, List.append_nil]
            exact .cons (makes_ok hc ⟨rfl, rfl⟩) .nil
        | some name =>
            have hchild := mem_subtrees_of_child? (Option.eq_some_of_filter_eq_some hname)
            simp only [marks, marksAll_fieldPart]
            exact .cons (makes_own (Tree.mem_subtrees_trans hchild hc)) .nil
      · exact .nil

theorem makes_functionParts {name : Except DecodeFault Text} {name? : Option Concrete}
    (hname : Succeeds name ↔ ∀ s ∈ name?, Succeeds s.text) :
    List.Forall₂ (Makes file t) (marksAll (t.functionParts file name))
      (t.functionMakings name?) := by
  have hself := Tree.mem_subtrees_self t
  have hparams :
      List.Forall₂ (Makes file t) (t.parameterPart file).marks [⟨t.parameters?.getD t, none⟩] := by
    unfold parameterPart
    cases hparams : t.parameters? with
    | none => exact .cons (makes_ok hself ⟨rfl, rfl⟩) .nil
    | some params =>
        have hmem : params ∈ t.subtrees := by
          rcases Option.or_eq_some_iff.mp hparams with h | ⟨-, h⟩
          · exact mem_subtrees_of_child? h
          · exact mem_subtrees_of_child? h
        have hnil :
            marksAll (if params.kind = .formalParameters then params.namedParts
              else [.source params]) = [] := by
          split
          · exact marksAll_namedParts
          · rfl
        simp only [marks, hnil, Option.getD_some]
        exact .cons (makes_ok hmem ⟨rfl, rfl⟩) .nil
  simp only [functionParts, functionMakings, marksAll, marks, marksAll_fieldPart, List.append_nil,
    List.singleton_append]
  exact .cons (makes_text hself hname) hparams

theorem succeeds_functionName :
    Succeeds ((t.child? .name).elim (.ok []) Concrete.text) ↔
      ∀ s ∈ t.child? .name, Succeeds s.text := by
  cases t.child? .name <;> simp

theorem writtenKey?_of_none {f : Field} (h : (t.child? f).bind keyText? = none) :
    t.writtenKey? f = none := by
  unfold writtenKey?
  cases hc : t.child? f with
  | none => rfl
  | some key =>
      rw [hc, Option.bind_some] at h
      simp [h]

/-- A written key needs the text of its own node. -/
theorem succeeds_keyText_iff {f : Field} {x : Except DecodeFault Text}
    (h : (t.child? f).bind keyText? = some x) :
    Succeeds x ↔ ∀ s ∈ t.writtenKey? f, Succeeds s.text := by
  obtain ⟨key, hkey, hx⟩ := Option.bind_eq_some_iff.mp h
  have hwritten : t.writtenKey? f = some key := by simp [writtenKey?, hkey, hx]
  have htext : Succeeds x ↔ Succeeds key.text := by
    unfold keyText? at hx
    split at hx
    case h_5 => rw [← Option.some.inj hx, Succeeds.map_iff]
    case h_6 => cases hx
    all_goals rw [← Option.some.inj hx]
  rw [htext, hwritten]
  simp

variable (file t) in
/-- The nodes that are made for a concrete node name the file and a line of it, and they can be made
as soon as the needed texts can be read. -/
theorem makes_outline : List.Forall₂ (Makes file t) (t.outline file).marks t.makings := by
  have hself := Tree.mem_subtrees_self t
  have hnamed : ∀ c ∈ t.named, c ∈ t.subtrees :=
    fun c hc ↦ Tree.mem_subtrees_of_mem_children (mem_named.mp hc).1
  rw [Node.Outline.marks]
  cases hkind : t.kind with
  | identifier | shorthandPropertyIdentifierPattern | propertyIdentifier
  | privatePropertyIdentifier =>
      simp only [outline, makings, hkind]
      exact .cons (makes_own hself) .nil
  | string =>
      simp only [outline, makings, hkind]
      exact .cons (makes_text hself (by simp [Succeeds.map_iff])) .nil
  | number =>
      simp only [outline, makings, hkind]
      cases hvalue : t.text.map NumericLiteral.value? with
      | error fault =>
          have hnone : ¬ Succeeds t.text := by
            rw [← Succeeds.map_iff, hvalue]
            rintro ⟨_, ⟨⟩⟩
          exact .cons ⟨hself, .error fault, iff_of_false (by rintro ⟨_, ⟨⟩⟩) (by simpa using hnone)⟩
            .nil
      | ok x? =>
          have htext : ∀ s ∈ some t, Succeeds s.text := by
            rintro s ⟨⟩
            rw [← Succeeds.map_iff, hvalue]
            exact .ok x?
          cases x? with
          | none =>
              simp only [marksAll_namedParts]
              exact .cons ⟨hself, .ok ⟨rfl, rfl⟩, iff_of_true (.ok _) htext⟩ .nil
          | some x => exact .cons ⟨hself, .ok ⟨rfl, rfl⟩, iff_of_true (.ok _) htext⟩ .nil
  | memberExpression =>
      simp only [outline, makings, hkind, Draft.marksAll_append, marksAll_fieldPart,
        List.nil_append]
      refine .cons (makes_ok hself ⟨rfl, rfl⟩) ?_
      cases hprop : t.child? .property with
      | none => exact .nil
      | some p => exact .cons (makes_own (mem_subtrees_of_child? hprop)) .nil
  | binaryExpression =>
      simp only [outline, makings, hkind, Draft.marksAll_append, marksAll_fieldPart,
        List.nil_append]
      refine .cons (makes_ok hself ?_) .nil
      split <;> exact ⟨rfl, rfl⟩
  | augmentedAssignmentExpression =>
      simp only [outline, makings, hkind, Draft.marksAll_append, marksAll_fieldPart,
        List.nil_append]
      refine .cons (makes_ok hself ?_) .nil
      split <;> exact ⟨rfl, rfl⟩
  | callExpression | newExpression | subscriptExpression | assignmentExpression =>
      simp only [outline, makings, hkind, Draft.marksAll_append, marksAll_fieldPart,
        marksAll_argumentParts, List.nil_append]
      exact .cons (makes_ok hself ⟨rfl, rfl⟩) .nil
  | variableDeclaration | lexicalDeclaration =>
      simp only [outline, makings, hkind]
      exact .cons (makes_ok hself ⟨rfl, rfl⟩) (makes_declarators hnamed)
  | functionDeclaration | functionExpression | function | generatorFunctionDeclaration
  | generatorFunction | arrowFunction =>
      simp only [outline, makings, hkind]
      exact .cons (makes_ok hself ⟨rfl, rfl⟩) (makes_functionParts succeeds_functionName)
  | methodDefinition =>
      have hfunction :
          List.Forall₂ (Makes file t) (marksAll (t.functionParts file (.ok [])))
            (t.functionMakings none) :=
        makes_functionParts (by simp)
      simp only [outline, makings, hkind]
      cases hkey : (t.child? .name).bind keyText? with
      | none =>
          simp only [writtenKey?_of_none hkey, Draft.marksAll_append, marksAll_fieldPart, marksAll,
            marks, List.nil_append, List.append_nil]
          exact .cons (makes_ok hself ⟨rfl, rfl⟩) (.cons (makes_ok hself ⟨rfl, rfl⟩) hfunction)
      | some key =>
          simp only [marksAll, marks, List.append_nil]
          exact .cons (makes_text hself (succeeds_keyText_iff hkey))
            (.cons (makes_ok hself ⟨rfl, rfl⟩) hfunction)
  | pair =>
      simp only [outline, makings, hkind]
      cases hkey : (t.child? .key).bind keyText? with
      | none =>
          simp only [writtenKey?_of_none hkey, Draft.marksAll_append, marksAll_fieldPart,
            List.nil_append]
          exact .cons (makes_ok hself ⟨rfl, rfl⟩) .nil
      | some key =>
          simp only [marksAll_fieldPart]
          exact .cons (makes_text hself (succeeds_keyText_iff hkey)) .nil
  | shorthandPropertyIdentifier =>
      simp only [outline, makings, hkind, marksAll, marks, List.append_nil]
      exact .cons (makes_own hself) (.cons (makes_own hself) .nil)
  | _ =>
      simp only [outline, makings, hkind, marksAll_namedParts]
      exact .cons (makes_ok hself ⟨rfl, rfl⟩) .nil

end Concrete

namespace Node

namespace Draft

variable {file : Text} (t : Concrete)

/-- The conversion succeeds exactly if all texts that it needs can be read. -/
theorem succeeds_convert_source_iff :
    Succeeds (convert file [.source t]) ↔
      ∀ u ∈ converted file [.source t], ∀ s ∈ u.neededTexts, Succeeds s.text := by
  have hmarks (u : Concrete) :
      (∀ mark ∈ (u.outline file).marks, Succeeds mark) ↔ ∀ s ∈ u.neededTexts, Succeeds s.text := by
    have hmakes := u.makes_outline file
    rw [Concrete.neededTexts]
    generalize (u.outline file).marks = marks, u.makings = ms at hmakes ⊢
    induction hmakes with
    | nil => simp
    | @cons mark m marks ms hmark _ ih =>
        rw [List.forall_mem_cons]
        refine (and_congr hmark.readable ih).trans ?_
        cases hm : m.text? <;> simp [hm]
  rw [succeeds_convert_iff, forall_pops_iff]
  simp only [hmarks]
  exact and_iff_right (List.forall_mem_nil _)

/-- Every node of the trees names the file and a line on which a node of the concrete tree
starts. -/
theorem stamp_of_convert {ns : List (Node Unit)} (h : convert file [.source t] = .ok ns)
    {label : Mark Unit} (hlabel : label ∈ Tree.preorders ns) :
    label.file = file ∧ ∃ u ∈ t.subtrees, label.line = Concrete.line u := by
  have hpops :
      ∀ pop ∈ pops file [.source t], ∃ u ∈ t.subtrees, ∃ m, Concrete.Makes file u pop.2.mark m := by
    rw [forall_pops_iff fun mark ↦ ∃ u ∈ t.subtrees, ∃ m, Concrete.Makes file u mark m]
    refine ⟨List.forall_mem_nil _, ?_⟩
    intro u hu
    have hmakes := (u.makes_outline file).imp fun mark m hm ↦ And.intro (Exists.intro m hm) hm
    intro mark hmark
    exact ⟨u, (converted_source_subperm file t).subset hu,
      ((List.forall₂_and_left _ _).mp hmakes).1 mark hmark⟩
  have hmark : (.ok label : Except DecodeFault (Mark Unit)) ∈ (Tree.preorders ns).map .ok :=
    List.mem_map_of_mem hlabel
  rw [← map_mark_pops h] at hmark
  obtain ⟨pop, hpop, hmark⟩ := List.mem_map.mp hmark
  obtain ⟨u, hu, m, hm⟩ := hpops pop hpop
  obtain ⟨hfile, hline⟩ := hm.stamp label hmark
  exact ⟨hfile, m.start, Tree.mem_subtrees_trans hm.start hu, hline⟩

end Draft

end Node

end CallAudit
