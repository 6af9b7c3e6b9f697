import CallAudit.Proofs.ConvertedNodes

/-!
# Concrete nodes told apart by numbers

Equal subtrees may stand at several places of a concrete tree, so that a list of subtrees does not
say which nodes are meant.  Numbers do, and nodes can carry them where they say their columns, since
the conversion never asks for those: it takes up the same nodes, whatever their columns are.
-/

namespace CallAudit

namespace Tree

variable {α β : Type}

mutual

def map (f : α → β) : Tree α → Tree β
  | node a children => node (f a) (mapAll f children)

def mapAll (f : α → β) : List (Tree α) → List (Tree β)
  | [] => []
  | t :: ts => map f t :: mapAll f ts

end

theorem mapAll_eq (f : α → β) (ts : List (Tree α)) : mapAll f ts = ts.map (map f) := by
  induction ts with
  | nil => rfl
  | cons t ts ih => rw [mapAll, ih, List.map_cons]

@[simp] theorem label_map (f : α → β) (t : Tree α) : (t.map f).label = f t.label := by
  cases t
  rfl

@[simp] theorem children_map (f : α → β) (t : Tree α) :
    (t.map f).children = t.children.map (map f) := by
  cases t
  exact mapAll_eq f _

end Tree

namespace Concrete

def blank (t : Concrete) : Concrete := t.map fun m ↦ { m with column := 0 }

mutual

/-- The tree with consecutive numbers instead of its columns, in preorder. -/
def numberedFrom (k : Nat) : Concrete → Concrete
  | .node m children => .node { m with column := k } (numberedAllFrom (k + 1) children)

def numberedAllFrom (k : Nat) : List Concrete → List Concrete
  | [] => []
  | t :: ts => numberedFrom k t :: numberedAllFrom (k + t.size) ts

end

def numbered (t : Concrete) : Concrete := numberedFrom 0 t

mutual

/-- Numbering changes the columns only. -/
theorem blank_numberedFrom (k : Nat) (t : Concrete) : blank (numberedFrom k t) = blank t := by
  cases t with
  | node m children =>
      simp only [blank, numberedFrom, Tree.map, Tree.mapAll_eq]
      exact congrArg (Tree.node { m with column := 0 }) (map_blank_numberedAllFrom (k + 1) children)

theorem map_blank_numberedAllFrom (k : Nat) (ts : List Concrete) :
    (numberedAllFrom k ts).map blank = ts.map blank := by
  cases ts with
  | nil => rfl
  | cons t ts =>
      rw [numberedAllFrom, List.map_cons, List.map_cons, blank_numberedFrom k t,
        map_blank_numberedAllFrom (k + t.size) ts]

end

mutual

theorem columns_numberedFrom (k : Nat) (t : Concrete) :
    (Tree.preorder (numberedFrom k t)).map Mark.column = List.range' k t.size := by
  cases t with
  | node m children =>
      rw [numberedFrom, Tree.preorder, List.map_cons, columns_numberedAllFrom (k + 1) children,
        Tree.size, List.range'_succ]

theorem columns_numberedAllFrom (k : Nat) (ts : List Concrete) :
    (Tree.preorders (numberedAllFrom k ts)).map Mark.column = List.range' k (Tree.sizes ts) := by
  cases ts with
  | nil => rfl
  | cons t ts =>
      rw [numberedAllFrom, Tree.preorders, List.map_append, columns_numberedFrom k t,
        columns_numberedAllFrom (k + t.size) ts, Tree.sizes_cons, List.range'_append_1]

end

/-- The numbers tell all places of a tree apart. -/
theorem nodup_columns_numbered (t : Concrete) :
    (t.numbered.subtrees.map fun u ↦ u.label.column).Nodup := by
  have hcolumns := columns_numberedFrom 0 t
  rw [Tree.preorder_eq_map_subtrees, List.map_map] at hcolumns
  exact hcolumns ▸ List.nodup_range'

end Concrete

namespace Node

mutual

def Draft.blank : Draft → Draft
  | .source t => .source t.blank
  | .made mark parts => .made mark (Draft.blankAll parts)

def Draft.blankAll : List Draft → List Draft
  | [] => []
  | d :: ds => d.blank :: Draft.blankAll ds

end

def Outline.blank (o : Outline) : Outline := ⟨o.mark, Draft.blankAll o.parts⟩

namespace Draft

@[simp] theorem blankAll_append (ds es : List Draft) :
    blankAll (ds ++ es) = blankAll ds ++ blankAll es := by
  induction ds with
  | nil => rfl
  | cons d ds ih => simp [blankAll, ih]

@[simp] theorem blankAll_map_source (ts : List Concrete) :
    blankAll (ts.map source) = (ts.map Concrete.blank).map source := by
  induction ts with
  | nil => rfl
  | cons t ts ih => simp [blankAll, blank, ih]

end Draft

end Node

namespace Concrete

open Node (Draft)
open Node.Draft (blankAll)

variable (file : Text) (t : Concrete)

@[simp] theorem kind_blank : t.blank.kind = t.kind := by simp [kind, blank]

@[simp] theorem text_blank : t.blank.text = t.text := by simp [text, blank]

@[simp] theorem line_blank : t.blank.line = t.line := by simp [line, blank]

@[simp] theorem children_blank : t.blank.children = t.children.map blank := Tree.children_map _ t

@[simp] theorem named_blank : t.blank.named = t.named.map blank := by
  rw [named, children_blank, List.filter_map, named]
  simp [Function.comp_def, blank, kind]

@[simp] theorem child?_blank (f : Field) : t.blank.child? f = (t.child? f).map blank := by
  have hfield : (fun c : Concrete ↦ c.label.field? == some f) ∘ blank =
      fun c ↦ c.label.field? == some f :=
    funext fun c ↦ by simp [blank]
  rw [child?, children_blank, List.find?_map, hfield, child?]

@[simp] theorem mark_blank (k : Node.Kind) : t.blank.mark file k = t.mark file k := by simp [mark]

@[simp] theorem markWith_blank (k : Node.Kind) (s : Text) :
    t.blank.markWith file k s = t.markWith file k s := by
  simp [markWith]

@[simp] theorem markText_blank (k : Node.Kind) (x : Except DecodeFault Text) :
    t.blank.markText file k x = t.markText file k x := by
  have hwith : t.blank.markWith file k = t.markWith file k :=
    funext fun s ↦ t.markWith_blank file k s
  rw [markText, hwith, markText]

@[simp] theorem ruleMark_blank : t.blank.ruleMark file = t.ruleMark file := by simp [ruleMark]

@[simp] theorem operator_blank : t.blank.operator = t.operator := by
  rw [operator, child?_blank, operator]
  cases t.child? .operator <;> simp

@[simp] theorem keyText?_blank : t.blank.keyText? = t.keyText? := by simp [keyText?]

theorem bind_keyText?_blank (f : Field) :
    (t.blank.child? f).bind keyText? = (t.child? f).bind keyText? := by
  have hkey : keyText? ∘ blank = keyText? := funext keyText?_blank
  rw [child?_blank, Option.bind_map, hkey]

@[simp] theorem namedParts_blank :
    t.blank.namedParts = blankAll t.namedParts := by simp [namedParts]

@[simp] theorem fieldPart_blank (f : Field) : t.blank.fieldPart f = blankAll (t.fieldPart f) := by
  rw [fieldPart, fieldPart, child?_blank, Draft.blankAll_map_source, Option.toList_map]

@[simp] theorem argumentParts_blank : t.blank.argumentParts = blankAll t.argumentParts := by
  rw [argumentParts, argumentParts, child?_blank]
  cases t.child? .arguments with
  | none => rfl
  | some args =>
      simp only [Option.map_some, kind_blank]
      split
      · exact args.namedParts_blank
      · rfl

@[simp] theorem declarator_blank : t.blank.declarator file = (t.declarator file).blank := by
  have hname : (t.blank.child? .name).filter (·.kind = .identifier) =
      ((t.child? .name).filter (·.kind = .identifier)).map blank := by
    rw [child?_blank, Option.filter_map]
    simp [Function.comp_def]
  unfold declarator
  rw [kind_blank, hname]
  split
  · cases (t.child? .name).filter (·.kind = .identifier) with
    | none => simp [Draft.blank]
    | some name => simp [Draft.blank]
  · rfl

theorem declarators_blank (ts : List Concrete) :
    (ts.map blank).map (declarator file) = blankAll (ts.map (declarator file)) := by
  induction ts with
  | nil => rfl
  | cons t ts ih => simp [blankAll, ih]

@[simp] theorem parameterPart_blank :
    t.blank.parameterPart file = (t.parameterPart file).blank := by
  have hparams : t.blank.parameters? = t.parameters?.map blank := by
    rw [parameters?, child?_blank, child?_blank, ← Option.map_or, parameters?]
  unfold parameterPart
  rw [hparams]
  cases t.parameters? with
  | none => simp [Draft.blank, blankAll]
  | some params =>
      simp only [Option.map_some, kind_blank, mark_blank, Draft.blank]
      split
      · rw [namedParts_blank]
      · rfl

@[simp] theorem functionParts_blank (name : Except DecodeFault Text) :
    t.blank.functionParts file name = blankAll (t.functionParts file name) := by
  simp [functionParts, blankAll, Draft.blank]

/-- The step: a node is drafted without a look at columns. -/
theorem outline_blank : t.blank.outline file = (t.outline file).blank := by
  unfold outline
  rw [kind_blank]
  cases hkind : t.kind with
  | number =>
      simp only [text_blank]
      cases t.text.map NumericLiteral.value? with
      | error fault => rfl
      | ok x? => cases x? <;> simp [Node.Outline.blank, blankAll]
  | memberExpression =>
      simp only [Node.Outline.blank, Draft.blankAll_append, mark_blank, fieldPart_blank,
        child?_blank]
      cases t.child? .property <;> simp [blankAll, Draft.blank]
  | variableDeclaration | lexicalDeclaration =>
      have hkeyword : (t.blank.children.head?.elim "var" fun c ↦ (Concrete.kind c).name) =
          t.children.head?.elim "var" fun c ↦ (Concrete.kind c).name := by
        rw [children_blank]
        cases t.children <;> simp
      simp only [hkeyword, Node.Outline.blank, markWith_blank, named_blank, declarators_blank]
  | functionDeclaration | functionExpression | function | generatorFunctionDeclaration
  | generatorFunction | arrowFunction =>
      have hname : (t.blank.child? .name).elim (.ok []) Concrete.text =
          (t.child? .name).elim (.ok []) Concrete.text := by
        rw [child?_blank]
        cases t.child? .name <;> simp
      simp only [Node.Outline.blank, hname, mark_blank, functionParts_blank]
  | methodDefinition =>
      simp only [bind_keyText?_blank]
      cases (t.child? .name).bind keyText? <;> simp [Node.Outline.blank, blankAll, Draft.blank]
  | pair =>
      simp only [bind_keyText?_blank]
      cases (t.child? .key).bind keyText? <;> simp [Node.Outline.blank]
  | _ => simp [Node.Outline.blank, blankAll, Draft.blank]

theorem enclosed?_blank : t.blank.enclosed? = t.enclosed?.map blank := by
  unfold enclosed?
  rw [kind_blank, named_blank]
  cases t.kind with
  | parenthesizedExpression =>
      match t.named with
      | [] => rfl
      | [_] => rfl
      | _ :: _ :: _ => rfl
  | _ => rfl

theorem unwrap_blank : t.blank.unwrap = t.unwrap.blank := by
  fun_induction unwrap t with
  | case1 t inner h ih =>
      have hblank : t.blank.enclosed? = some inner.blank := by
        rw [enclosed?_blank, h, Option.map_some]
      rw [unwrap_of_some hblank, ih]
  | case2 t h =>
      have hblank : t.blank.enclosed? = none := by rw [enclosed?_blank, h, Option.map_none]
      exact unwrap_of_none hblank

end Concrete

namespace Node

namespace Draft

variable (file : Text)

/-- The conversion does not look at columns. -/
theorem expand_blank (d : Draft) : d.blank.expand file = (d.expand file).map Outline.blank := by
  cases d with
  | source t =>
      rw [blank, expand, expand, Concrete.unwrap_blank, Concrete.kind_blank, Concrete.outline_blank]
      split <;> rfl
  | made mark parts => rfl

theorem origin?_blank (d : Draft) : d.blank.origin? = d.origin?.map Concrete.blank := by
  cases d with
  | source t => exact congrArg some t.unwrap_blank
  | made mark parts => rfl

/-- The run: without columns the same nodes are taken up. -/
theorem converted_blankAll (ds : List Draft) :
    converted file (blankAll ds) = (converted file ds).map Concrete.blank := by
  fun_induction pops file ds with
  | case1 => simp [blankAll]
  | case2 d ds h ih =>
      have hblank : d.blank.expand file = none := by rw [expand_blank, h, Option.map_none]
      rw [blankAll, converted_cons_of_none hblank, converted_cons_of_none h, ih]
  | case3 d ds o h ih =>
      have hblank : d.blank.expand file = some o.blank := by rw [expand_blank, h, Option.map_some]
      rw [blankAll_append, converted_append, converted_append] at ih
      rw [blankAll, converted_cons_of_some hblank, converted_cons_of_some h, Outline.blank, ih,
        origin?_blank]
      simp [Option.toList_map]

/-- No concrete node is converted twice.  If the nodes are numbered, the same nodes are converted,
and no number occurs twice among them. -/
theorem converted_numbered (t : Concrete) :
    (converted file [.source t.numbered]).map Concrete.blank =
      (converted file [.source t]).map Concrete.blank ∧
      ((converted file [.source t.numbered]).map fun u ↦ u.label.column).Nodup := by
  constructor
  · have hblank : blankAll [.source t.numbered] = blankAll [.source t] :=
      congrArg (fun u ↦ [source u]) (Concrete.blank_numberedFrom 0 t)
    rw [← converted_blankAll, ← converted_blankAll, hblank]
  · obtain ⟨us, hperm, hsublist⟩ := converted_source_subperm file t.numbered
    apply (hperm.map _).nodup_iff.mp
    exact t.nodup_columns_numbered.sublist (hsublist.map _)

end Draft

end Node

end CallAudit
