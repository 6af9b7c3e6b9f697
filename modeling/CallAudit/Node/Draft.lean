import CallAudit.Charset.Utf8
import CallAudit.Concrete.Basic
import CallAudit.Node.Basic
import CallAudit.Number.Literal
import CallAudit.StringLiteral

/-!
# From concrete to analysed nodes

Each kind of concrete node is drafted as an analysed node over parts, which are again concrete nodes
or nodes drafted in advance.  Parentheses are looked through, skipped kinds vanish, and so do absent
fields.  The text of a node may turn out not to be UTF-8, and then its draft has no mark.

`Draft.weight` bounds the work that a draft stands for: the parts of a draft weigh less than the
node they come from.
-/

namespace CallAudit

namespace Node

/-- A node still to be converted: a concrete node, or an analysed one over parts to be converted. -/
inductive Draft where
  | source (t : Concrete)
  | made (mark : Except DecodeFault (Mark Unit)) (parts : List Draft)

namespace Draft

mutual

def weight : Draft → Nat
  | source t => 8 * t.size
  | made _ parts => weights parts + 2

def weights : List Draft → Nat
  | [] => 0
  | d :: ds => weight d + weights ds

end

@[simp] theorem weight_source (t : Concrete) : (source t).weight = 8 * t.size := rfl

@[simp] theorem weight_made (m : Except DecodeFault (Mark Unit)) (parts : List Draft) :
    (made m parts).weight = weights parts + 2 := rfl

theorem weight_pos (d : Draft) : 0 < d.weight := by
  cases d with
  | source t => simp [Tree.size_pos]
  | made mark parts => simp

@[simp] theorem weights_nil : weights [] = 0 := rfl

@[simp] theorem weights_cons (d : Draft) (ds : List Draft) :
    weights (d :: ds) = d.weight + weights ds := rfl

@[simp] theorem weights_append (ds es : List Draft) :
    weights (ds ++ es) = weights ds + weights es := by
  induction ds with
  | nil => simp
  | cons d ds ih => simp [ih, Nat.add_assoc]

@[simp] theorem weights_map_source (ts : List Concrete) :
    weights (ts.map source) = 8 * Tree.sizes ts := by
  induction ts with
  | nil => rfl
  | cons t ts ih => simp [ih, Nat.mul_add]

end Draft

/-- A drafted node: its mark, unless its text cannot be decoded, and its parts. -/
structure Outline where
  mark : Except DecodeFault (Mark Unit)
  parts : List Draft

end Node

namespace Concrete

open Node (Draft Outline)

/-- The named child that parentheses enclose, if they enclose one only. -/
def enclosed? (t : Concrete) : Option Concrete :=
  match t.kind, t.named with
  | .parenthesizedExpression, [inner] => some inner
  | _, _ => none

theorem size_enclosed {t inner : Concrete} (h : t.enclosed? = some inner) :
    inner.size < t.size := by
  unfold enclosed? at h
  split at h
  · next named =>
    have hle : Tree.sizes t.named ≤ Tree.sizes t.children :=
      Tree.sizes_le_of_sublist List.filter_sublist
    obtain rfl := Option.some.inj h
    rw [named, Tree.sizes_cons, Tree.sizes_nil] at hle
    rw [Tree.size_eq t]
    omega
  · simp at h

def unwrap (t : Concrete) : Concrete :=
  match _h : t.enclosed? with
  | some inner => unwrap inner
  | none => t
termination_by t.size
decreasing_by exact size_enclosed _h

theorem size_unwrap_le (t : Concrete) : t.unwrap.size ≤ t.size := by
  fun_induction unwrap t with
  | case1 t inner h ih => exact Nat.le_trans ih (Nat.le_of_lt (size_enclosed h))
  | case2 t h => exact Nat.le_refl _

def text (t : Concrete) : Except DecodeFault Text := Utf8.decode t.label.text

/-- A mark without payload, for an analysed node that starts where `t` does. -/
def mark (t : Concrete) (file : Text) (kind : Node.Kind) : Node.Mark Unit :=
  { kind, file, line := t.line, string? := none, number? := none, rule? := none, tag := () }

def markWith (t : Concrete) (file : Text) (kind : Node.Kind) (s : Text) : Node.Mark Unit :=
  { mark t file kind with string? := some s }

def markText (t : Concrete) (file : Text) (kind : Node.Kind) (s : Except DecodeFault Text) :
    Except DecodeFault (Node.Mark Unit) :=
  s.map (markWith t file kind)

/-- The mark of a node that keeps only the name of its grammar rule. -/
def ruleMark (t : Concrete) (file : Text) : Node.Mark Unit :=
  { mark t file .other with rule? := some t.kind.name }

def fieldPart (t : Concrete) (f : Field) : List Draft := (t.child? f).toList.map .source

def namedParts (t : Concrete) : List Draft := t.named.map .source

/-- The arguments of a call: those of an argument list, or a template literal by itself. -/
def argumentParts (t : Concrete) : List Draft :=
  match t.child? .arguments with
  | none => []
  | some args => if args.kind = .arguments then args.namedParts else [.source args]

def operator (t : Concrete) : String := (t.child? .operator).elim "" fun o ↦ o.kind.name

/-- The name under which a key makes a value accessible, as far as it is written out. -/
def keyText? (key : Concrete) : Option (Except DecodeFault Text) :=
  match key.kind with
  | .propertyIdentifier | .privatePropertyIdentifier | .identifier | .number => some key.text
  | .string => some (key.text.map StringLiteral.value)
  | _ => none

/-- A declared name over its initial value; patterns keep both sides. -/
def declarator (file : Text) (t : Concrete) : Draft :=
  if t.kind = .variableDeclarator then
    match (t.child? .name).filter (·.kind = .identifier) with
    | some name => .made (name.markText file .name name.text) (t.fieldPart .value)
    | none => .made (.ok (t.ruleMark file)) (t.fieldPart .name ++ t.fieldPart .value)
  else .source t

def parameters? (t : Concrete) : Option Concrete := (t.child? .parameters).or (t.child? .parameter)

def parameterPart (file : Text) (t : Concrete) : Draft :=
  match t.parameters? with
  | none => .made (.ok (t.mark file .paramList)) []
  | some params => .made (.ok (params.mark file .paramList))
      (if params.kind = .formalParameters then params.namedParts else [.source params])

def functionParts (file : Text) (t : Concrete) (name : Except DecodeFault Text) : List Draft :=
  .made (t.markText file .name name) [] :: t.parameterPart file :: t.fieldPart .body

/-- The analysed node that a concrete node becomes, and the parts below it. -/
def outline (file : Text) (t : Concrete) : Outline :=
  match t.kind with
  | .program => ⟨.ok (t.mark file .script), t.namedParts⟩
  | .statementBlock | .classBody => ⟨.ok (t.mark file .block), t.namedParts⟩
  | .expressionStatement => ⟨.ok (t.mark file .exprResult), t.namedParts⟩
  | .identifier | .shorthandPropertyIdentifierPattern => ⟨t.markText file .name t.text, []⟩
  | .propertyIdentifier | .privatePropertyIdentifier => ⟨t.markText file .string t.text, []⟩
  | .string => ⟨t.markText file .string (t.text.map StringLiteral.value), []⟩
  | .number =>
    match t.text.map NumericLiteral.value? with
    | .error fault => ⟨.error fault, []⟩
    | .ok (some x) => ⟨.ok { t.mark file .number with number? := some x }, []⟩
    | .ok none => ⟨.ok (t.ruleMark file), t.namedParts⟩
  | .templateString => ⟨.ok (t.mark file .template), t.namedParts⟩
  | .callExpression => ⟨.ok (t.mark file .call), t.fieldPart .function ++ t.argumentParts⟩
  | .newExpression => ⟨.ok (t.mark file .new), t.fieldPart .constructor ++ t.argumentParts⟩
  | .memberExpression =>
    let property :=
      (t.child? .property).toList.map fun p ↦ Draft.made (p.markText file .string p.text) []
    ⟨.ok (t.mark file .getProp), t.fieldPart .object ++ property⟩
  | .subscriptExpression => ⟨.ok (t.mark file .getElem), t.fieldPart .object ++ t.fieldPart .index⟩
  | .binaryExpression =>
    let mark :=
      if t.operator = "+" then t.mark file .add
      else { t.ruleMark file with string? := some t.operator }
    ⟨.ok mark, t.fieldPart .left ++ t.fieldPart .right⟩
  | .assignmentExpression =>
    ⟨.ok (t.mark file (.assign .plain)), t.fieldPart .left ++ t.fieldPart .right⟩
  | .augmentedAssignmentExpression =>
    let mark :=
      match Assignment.ofSpelling? t.operator with
      | some a => t.mark file (.assign a)
      | none => { t.ruleMark file with string? := some t.operator }
    ⟨.ok mark, t.fieldPart .left ++ t.fieldPart .right⟩
  | .variableDeclaration | .lexicalDeclaration =>
    let keyword := t.children.head?.elim "var" fun c ↦ (Concrete.kind c).name
    ⟨.ok (t.markWith file .var keyword), t.named.map (declarator file)⟩
  | .functionDeclaration | .functionExpression | .function | .generatorFunctionDeclaration
  | .generatorFunction | .arrowFunction =>
    let name := (t.child? .name).elim (.ok []) Concrete.text
    ⟨.ok (t.mark file .function), t.functionParts file name⟩
  | .methodDefinition =>
    let function := Draft.made (.ok (t.mark file .function)) (t.functionParts file (.ok []))
    match (t.child? .name).bind keyText? with
    | some key => ⟨t.markText file .stringKey key, [function]⟩
    | none => ⟨.ok (t.ruleMark file), t.fieldPart .name ++ [function]⟩
  | .object => ⟨.ok (t.mark file .objectLit), t.namedParts⟩
  | .pair =>
    match (t.child? .key).bind keyText? with
    | some key => ⟨t.markText file .stringKey key, t.fieldPart .value⟩
    | none => ⟨.ok (t.ruleMark file), t.fieldPart .key ++ t.fieldPart .value⟩
  | .shorthandPropertyIdentifier =>
    ⟨t.markText file .stringKey t.text, [.made (t.markText file .name t.text) []]⟩
  | _ => ⟨.ok (t.ruleMark file), t.namedParts⟩

/-! ### Weights of parts -/

theorem weights_namedParts (t : Concrete) :
    Draft.weights t.namedParts ≤ 8 * Tree.sizes t.children := by
  have : Tree.sizes t.named ≤ Tree.sizes t.children := Tree.sizes_le_of_sublist List.filter_sublist
  rw [namedParts, Draft.weights_map_source]
  omega

def fieldSize (t : Concrete) (f : Field) : Nat := Tree.sizes (t.child? f).toList

theorem sizes_child? (t : Concrete) (f : Field) : Tree.sizes (t.child? f).toList = t.fieldSize f :=
  rfl

/-- Children in different fields are different children. -/
theorem exists_perm_fields (t : Concrete) (fs : List Field) (hfs : fs.Nodup) :
    ∃ cs : List Concrete, cs.Perm (fs.flatMap fun f ↦ (t.child? f).toList) ∧
      cs.Sublist t.children := by
  unfold child?
  generalize t.children = ts
  induction ts generalizing fs with
  | nil =>
    refine ⟨[], .of_eq ?_, List.Sublist.refl []⟩
    exact (List.flatMap_eq_nil_iff.mpr fun _ _ ↦ rfl).symm
  | cons c ts ih =>
    -- in all fields but its own, the child is passed over
    have hskip : ∀ f, c.label.field? ≠ some f →
        (c :: ts).find? (fun d ↦ d.label.field? == some f) =
          ts.find? fun d ↦ d.label.field? == some f :=
      fun f hf ↦ by rw [List.find?_cons, beq_eq_false_iff_ne.mpr hf]
    by_cases hc : ∃ f ∈ fs, c.label.field? = some f
    · obtain ⟨f, hf, hc⟩ := hc
      obtain ⟨cs, hperm, hsub⟩ := ih (fs.erase f) (hfs.erase f)
      refine ⟨c :: cs, ?_, hsub.cons_cons c⟩
      have hrest :
          (fs.erase f).flatMap (fun g ↦ ((c :: ts).find? fun d ↦ d.label.field? == some g).toList) =
          (fs.erase f).flatMap fun g ↦ (ts.find? fun d ↦ d.label.field? == some g).toList := by
        refine congrArg List.flatten (List.map_congr_left fun g hg ↦ ?_)
        have hne : c.label.field? ≠ some g := by
          rw [hc]
          exact fun h ↦ (hfs.mem_erase_iff.mp hg).1 (Option.some.inj h).symm
        rw [hskip g hne]
      refine .trans ?_ ((List.perm_cons_erase hf).symm.flatMap_right _)
      rw [List.flatMap_cons, hrest, List.find?_cons, hc, beq_self_eq_true]
      exact hperm.cons c
    · obtain ⟨cs, hperm, hsub⟩ := ih fs hfs
      refine ⟨cs, hperm.trans (.of_eq ?_), hsub.cons c⟩
      refine congrArg List.flatten (List.map_congr_left fun f hf ↦ ?_)
      rw [hskip f fun h ↦ hc ⟨f, hf, h⟩]

theorem sizes_fields_le (t : Concrete) (fs : List Field) (hfs : fs.Nodup) :
    Tree.sizes (fs.flatMap fun f ↦ (t.child? f).toList) ≤ Tree.sizes t.children := by
  obtain ⟨cs, hperm, hsub⟩ := t.exists_perm_fields fs hfs
  exact Tree.sizes_eq_of_perm hperm ▸ Tree.sizes_le_of_sublist hsub

theorem weights_fieldPart (t : Concrete) (f : Field) :
    Draft.weights (t.fieldPart f) = 8 * t.fieldSize f := by
  rw [fieldPart, Draft.weights_map_source, fieldSize]

theorem weights_argumentParts (t : Concrete) :
    Draft.weights t.argumentParts ≤ 8 * t.fieldSize .arguments := by
  unfold argumentParts
  split
  · simp
  · next args harg =>
    rw [fieldSize, harg]
    have := weights_namedParts args
    have := Tree.size_eq args
    split
    · simp
      omega
    · simp

theorem weight_declarator (file : Text) (t : Concrete) :
    (declarator file t).weight ≤ 8 * t.size := by
  have hfields := sizes_fields_le t [.name, .value] (by decide)
  simp only [List.flatMap_cons, List.flatMap_nil, Tree.sizes_append, Tree.sizes_nil, sizes_child?]
    at hfields
  have := Tree.size_eq t
  unfold declarator
  split
  · split <;> simp only [Draft.weight_made, Draft.weights_append, weights_fieldPart] <;> omega
  · simp

theorem weight_parameterPart (file : Text) (t : Concrete) :
    (t.parameterPart file).weight ≤
      8 * (t.fieldSize .parameters + t.fieldSize .parameter) + 2 := by
  unfold parameterPart
  split
  · simp
  · next params hparams =>
    have hsize : params.size ≤
        t.fieldSize .parameters + t.fieldSize .parameter := by
      unfold fieldSize
      unfold parameters? at hparams
      cases hp : t.child? .parameters with
      | none => simp_all
      | some p => simp_all
    have := weights_namedParts params
    have := Tree.size_eq params
    rw [Draft.weight_made]
    split <;> simp <;> omega

theorem weights_map_declarator (file : Text) (ts : List Concrete) :
    Draft.weights (ts.map (declarator file)) ≤ 8 * Tree.sizes ts := by
  induction ts with
  | nil => simp
  | cons t ts ih =>
    have := weight_declarator file t
    simp only [List.map_cons, Draft.weights_cons, Tree.sizes_cons]
    omega

theorem weights_functionParts (file : Text) (t : Concrete) (name : Except DecodeFault Text) :
    Draft.weights (t.functionParts file name) ≤
      8 * (t.fieldSize .parameters + t.fieldSize .parameter + t.fieldSize .body) + 4 := by
  have := weight_parameterPart file t
  simp only [functionParts, Draft.weights_cons, Draft.weight_made, Draft.weights_nil,
    weights_fieldPart]
  omega

/-- The parts of a node weigh less than the node. -/
theorem weights_outline (file : Text) (t : Concrete) :
    Draft.weights (t.outline file).parts + 1 < 8 * t.size := by
  have hnamed := weights_namedParts t
  have hargs := weights_argumentParts t
  have hsize := Tree.size_eq t
  have hall := sizes_fields_le t
    [.function, .constructor, .arguments, .object, .property, .index, .left, .right, .name, .value,
      .key, .parameters, .parameter, .body] (by decide)
  simp only [List.flatMap_cons, List.flatMap_nil, Tree.sizes_append, Tree.sizes_nil, sizes_child?]
    at hall
  have hdecl : Draft.weights (t.named.map (declarator file)) ≤ 8 * Tree.sizes t.children := by
    have := weights_map_declarator file t.named
    have : Tree.sizes t.named ≤ Tree.sizes t.children :=
      Tree.sizes_le_of_sublist List.filter_sublist
    omega
  have hprop : Draft.weights ((t.child? .property).toList.map fun p ↦
      Draft.made (p.markText file .string p.text) []) ≤ 8 * t.fieldSize .property := by
    rw [fieldSize]
    cases t.child? .property with
    | none => simp
    | some p =>
      have := Tree.size_pos p
      simp
      omega
  have hfunction := weights_functionParts file t ((t.child? .name).elim (.ok []) Concrete.text)
  have hmethod := weights_functionParts file t (.ok [])
  unfold outline
  split <;> (try split) <;>
    simp only [Draft.weights_append, Draft.weights_cons, Draft.weights_nil, Draft.weight_made,
      weights_fieldPart] <;>
    omega

end Concrete

end CallAudit
