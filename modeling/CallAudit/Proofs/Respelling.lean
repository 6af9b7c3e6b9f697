import CallAudit.Audit.Batch
import CallAudit.Proofs.Grammar
import CallAudit.Proofs.Spelling

/-!
# Trees that are spelled differently

Two concrete trees of the same shape may differ in how their names and their string literals are
written.  String literals of the same value are read alike, and so the trees become the same
analysed tree and lead to the same report, as long as the names are the same texts.  An identifier
that is written with an escape is another name.
-/

namespace CallAudit

theorem cases_of_rel {α β : Type} {r : α → β → Prop} {x : Option α} {y : Option β}
    (h : Option.Rel r x y) :
    (x = none ∧ y = none) ∨ ∃ a b, x = some a ∧ y = some b ∧ r a b := by
  cases h with
  | none => exact .inl ⟨rfl, rfl⟩
  | @some a b hab => exact .inr ⟨a, b, rfl, rfl, hab⟩

namespace Concrete

structure Mark.SameShape (m n : Mark) : Prop where
  kind : m.kind = n.kind
  field? : m.field? = n.field?
  named : m.named = n.named
  missing : m.missing = n.missing
  faulty : m.faulty = n.faulty
  row : m.row = n.row

def Kind.isName : Kind → Bool
  | .identifier | .propertyIdentifier | .privatePropertyIdentifier | .shorthandPropertyIdentifier
  | .shorthandPropertyIdentifierPattern => true
  | _ => false

theorem Kind.isText_of_isName {k : Kind} (h : k.isName = true) : k.isText = true := by
  cases k <;> first | rfl | cases h

/-- Trees of the same shape whose names are related by `names` and whose string literals are related
by `strings`.  The nodes below a string literal depend on how it is written and may differ. -/
inductive Respelled (names strings : List UInt8 → List UInt8 → Prop) : Concrete → Concrete → Prop
  | string {m n : Mark} {cs ds : List Concrete} (hshape : m.SameShape n) (hkind : m.kind = .string)
      (htext : strings m.text n.text) : Respelled names strings (.node m cs) (.node n ds)
  | node {m n : Mark} {cs ds : List Concrete} (hshape : m.SameShape n) (hkind : m.kind ≠ .string)
      (hname : m.kind.isName = true → names m.text n.text)
      (hnumber : m.kind = .number → m.text = n.text)
      (hfields : List.Forall₂ (fun c d ↦ ∀ f ∈ nameFields m.kind, c.label.field? = some f →
        names c.label.text d.label.text) cs ds)
      (hchildren : List.Forall₂ (Respelled names strings) cs ds) :
      Respelled names strings (.node m cs) (.node n ds)

namespace Respelled

variable {names strings : List UInt8 → List UInt8 → Prop} {t u : Concrete}

theorem sameShape (h : Respelled names strings t u) : t.label.SameShape u.label := by
  cases h with
  | string hshape _ _ => exact hshape
  | node hshape _ _ _ _ _ => exact hshape

theorem kind_eq (h : Respelled names strings t u) : u.kind = t.kind := h.sameShape.kind.symm

theorem line_eq (h : Respelled names strings t u) : u.line = t.line := by
  rw [line, line, h.sameShape.row]

theorem strings_of_kind (h : Respelled names strings t u) (hkind : t.kind = .string) :
    strings t.label.text u.label.text := by
  cases h with
  | string _ _ htext => exact htext
  | node _ hnot _ _ _ _ => exact absurd hkind hnot

theorem names_of_isName (h : Respelled names strings t u) (hkind : t.kind.isName = true) :
    names t.label.text u.label.text := by
  cases h with
  | @string m _ _ _ _ hstring _ =>
      have hfalse : m.kind.isName = true := hkind
      rw [hstring] at hfalse
      cases hfalse
  | node _ _ hname _ _ _ => exact hname hkind

theorem children (h : Respelled names strings t u) (hkind : t.kind ≠ .string) :
    List.Forall₂ (Respelled names strings) t.children u.children := by
  cases h with
  | string _ hstring _ => exact absurd hstring hkind
  | node _ _ _ _ _ hchildren => exact hchildren

theorem named (h : Respelled names strings t u) (hkind : t.kind ≠ .string) :
    List.Forall₂ (Respelled names strings) t.named u.named := by
  refine List.rel_filter ?_ (h.children hkind)
  intro c d hcd
  dsimp only
  rw [hcd.kind_eq, hcd.sameShape.named]

theorem child? (h : Respelled names strings t u) (hkind : t.kind ≠ .string) (f : Field) :
    Option.Rel (fun c d ↦ Respelled names strings c d ∧
      (f ∈ nameFields t.kind → names c.label.text d.label.text))
      (t.child? f) (u.child? f) := by
  cases h with
  | string _ hstring _ => exact absurd hstring hkind
  | @node m n cs ds _ _ _ _ hfields hchildren =>
      change Option.Rel
        (fun c d ↦ Respelled names strings c d ∧
          (f ∈ nameFields m.kind → names c.label.text d.label.text))
        (cs.find? fun c ↦ c.label.field? == some f) (ds.find? fun c ↦ c.label.field? == some f)
      -- the two lists are searched in step, as corresponding children are in the same fields
      clear hkind
      induction hchildren with
      | nil => exact .none
      | @cons c d cs ds hcd _ ih =>
          obtain ⟨hfield, hfields⟩ := List.forall₂_cons.mp hfields
          rw [List.find?_cons, List.find?_cons, ← hcd.sameShape.field?]
          cases hc : c.label.field? == some f with
          | true => exact .some ⟨hcd, fun hf ↦ hfield f hf (eq_of_beq hc)⟩
          | false => exact ih hfields

theorem enclosed? (h : Respelled names strings t u) :
    Option.Rel (Respelled names strings) t.enclosed? u.enclosed? := by
  by_cases hkind : t.kind = .parenthesizedExpression
  · have hnamed := h.named (by simp [hkind])
    rw [Concrete.enclosed?, Concrete.enclosed?, h.kind_eq, hkind]
    generalize t.named = cs at hnamed ⊢
    generalize u.named = ds at hnamed ⊢
    cases hnamed with
    | nil => exact .none
    | cons hcd hrest =>
        cases hrest with
        | nil => exact .some hcd
        | cons _ _ => exact .none
  · rw [enclosed?_of_ne hkind, enclosed?_of_ne (h.kind_eq.trans_ne hkind)]
    exact .none

theorem unwrap (h : Respelled names strings t u) : Respelled names strings t.unwrap u.unwrap := by
  fun_induction Concrete.unwrap t generalizing u with
  | case1 t inner henclosed ih =>
      rcases cases_of_rel h.enclosed? with ⟨hnone, -⟩ | ⟨c, d, hc, hd, hcd⟩
      · rw [henclosed] at hnone
        cases hnone
      · obtain rfl := Option.some.inj (henclosed.symm.trans hc)
        rw [unwrap_of_some hd]
        exact ih hcd
  | case2 t henclosed =>
      -- the shapes agree, so the other tree is not unwrapped either
      rcases cases_of_rel h.enclosed? with ⟨-, hnone⟩ | ⟨c, d, hc, -, -⟩
      · rw [unwrap_of_none hnone]
        exact h
      · rw [henclosed] at hc
        cases hc

end Respelled

/-- The same bytes, or texts to which a grammar gives the same value. -/
def SameValue (hasValue : Text → Text → Prop) (x y : List UInt8) : Prop :=
  x = y ∨ ∃ a b value, Utf8.decode x = .ok a ∧ Utf8.decode y = .ok b ∧ hasValue a value ∧
    hasValue b value

/-- The names are the same texts, and the string literals have the same values. -/
abbrev SameNames : Concrete → Concrete → Prop :=
  Respelled Eq (SameValue (StringLiteral.HasValue StringLiteral.Separate))

namespace SameNames

variable {t u : Concrete} {file : Text}

theorem text_eq (h : SameNames t u) (hkind : t.kind.isName = true) : u.text = t.text := by
  rw [text, text, h.names_of_isName hkind]

theorem numberText_eq (h : SameNames t u) (hkind : t.kind = .number) : u.text = t.text := by
  cases h with
  | string _ hstring _ => exact absurd (hstring.symm.trans hkind) (by simp)
  | node _ _ _ hnumber _ _ =>
      rw [text, text]
      exact congrArg Utf8.decode (hnumber hkind).symm

/-- String literals may be written differently, as long as they are read alike. -/
theorem literalText_eq (h : SameNames t u) (hkind : t.kind = .string) :
    u.text.map StringLiteral.value = t.text.map StringLiteral.value := by
  rcases h.strings_of_kind hkind with heq | ⟨a, b, value, ha, hb, hvalue, hvalue'⟩
  · rw [text, text, heq]
  · rw [text, text, ha, hb, Except.map, Except.map, StringLiteral.value_of_hasValue hvalue,
      StringLiteral.value_of_hasValue hvalue']

theorem child?_cases (h : SameNames t u) (hkind : t.kind ≠ .string) (f : Field) :
    (t.child? f = none ∧ u.child? f = none) ∨
      ∃ c d, t.child? f = some c ∧ u.child? f = some d ∧ SameNames c d ∧
        (f ∈ nameFields t.kind → c.label.text = d.label.text) :=
  cases_of_rel (h.child? hkind f)

theorem mark_eq (h : SameNames t u) (k : Node.Kind) : u.mark file k = t.mark file k := by
  rw [mark, mark, h.line_eq]

theorem markWith_eq (h : SameNames t u) (k : Node.Kind) (s : Text) :
    u.markWith file k s = t.markWith file k s := by
  rw [markWith, markWith, h.mark_eq]

theorem markText_eq (h : SameNames t u) (k : Node.Kind) (s : Except DecodeFault Text) :
    u.markText file k s = t.markText file k s := by
  rw [markText, markText, funext (h.markWith_eq k)]

theorem ruleMark_eq (h : SameNames t u) : u.ruleMark file = t.ruleMark file := by
  rw [ruleMark, ruleMark, h.mark_eq, h.kind_eq]

theorem operator_eq (h : SameNames t u) (hkind : t.kind ≠ .string) : u.operator = t.operator := by
  rw [operator, operator]
  rcases h.child?_cases hkind .operator with ⟨ht, hu⟩ | ⟨c, d, hc, hd, hcd, -⟩
  · rw [ht, hu]
  · rw [hc, hd, Option.elim_some, Option.elim_some, hcd.kind_eq]

theorem keyText?_eq (h : SameNames t u) : u.keyText? = t.keyText? := by
  unfold keyText?
  rw [h.kind_eq]
  cases hkind : t.kind with
  | propertyIdentifier | privatePropertyIdentifier | identifier =>
      exact congrArg some (h.text_eq (by rw [hkind]; rfl))
  | number => exact congrArg some (h.numberText_eq hkind)
  | string => exact congrArg some (h.literalText_eq hkind)
  | _ => rfl

theorem bind_keyText?_eq (h : SameNames t u) (hkind : t.kind ≠ .string) (f : Field) :
    (u.child? f).bind Concrete.keyText? = (t.child? f).bind Concrete.keyText? := by
  rcases h.child?_cases hkind f with ⟨ht, hu⟩ | ⟨c, d, hc, hd, hcd, -⟩
  · rw [ht, hu]
  · rw [hc, hd]
    exact hcd.keyText?_eq

end SameNames

end Concrete

namespace Node

open Concrete (SameNames)

inductive Draft.Alike : List Draft → List Draft → Prop
  | nil : Alike [] []
  | source {t u : Concrete} {ds es : List Draft} (h : SameNames t u) (hrest : Alike ds es) :
      Alike (.source t :: ds) (.source u :: es)
  | made {mark : Except DecodeFault (Mark Unit)} {ps qs ds es : List Draft} (hparts : Alike ps qs)
      (hrest : Alike ds es) : Alike (.made mark ps :: ds) (.made mark qs :: es)

namespace Draft.Alike

theorem append {ds es fs gs : List Draft} (h : Alike ds es) (h' : Alike fs gs) :
    Alike (ds ++ fs) (es ++ gs) := by
  induction h with
  | nil => exact h'
  | source h _ ih => exact .source h ih
  | made hparts _ _ ih => exact .made hparts ih

theorem node {mark mark' : Except DecodeFault (Mark Unit)} {ps qs : List Draft}
    (hmark : mark' = mark) (hparts : Alike ps qs) : Alike [.made mark ps] [.made mark' qs] := by
  rw [hmark]
  exact .made hparts .nil

theorem sources {ts us : List Concrete} (h : List.Forall₂ SameNames ts us) :
    Alike (ts.map .source) (us.map .source) := by
  induction h with
  | nil => exact .nil
  | cons htu _ ih => exact .source htu ih

end Draft.Alike

end Node

namespace Concrete

open Node (Draft)
open Node.Draft (Alike)

namespace SameNames

variable {t u : Concrete} {file : Text}

theorem alike_namedParts (h : SameNames t u) (hkind : t.kind ≠ .string) :
    Alike t.namedParts u.namedParts :=
  .sources (h.named hkind)

theorem alike_fieldPart (h : SameNames t u) (hkind : t.kind ≠ .string) (f : Field) :
    Alike (t.fieldPart f) (u.fieldPart f) := by
  rw [fieldPart, fieldPart]
  rcases h.child?_cases hkind f with ⟨ht, hu⟩ | ⟨c, d, hc, hd, hcd, -⟩
  · rw [ht, hu]
    exact .nil
  · rw [hc, hd]
    exact .source hcd .nil

theorem alike_fieldParts (h : SameNames t u) (hkind : t.kind ≠ .string) (f g : Field) :
    Alike (t.fieldPart f ++ t.fieldPart g) (u.fieldPart f ++ u.fieldPart g) :=
  (h.alike_fieldPart hkind f).append (h.alike_fieldPart hkind g)

theorem alike_members (h : SameNames t u) {k : Kind} (hk : k ≠ .string) :
    Alike (if t.kind = k then t.namedParts else [.source t])
      (if u.kind = k then u.namedParts else [.source u]) := by
  rw [h.kind_eq]
  by_cases hkind : t.kind = k
  · rw [if_pos hkind, if_pos hkind]
    exact h.alike_namedParts (hkind.trans_ne hk)
  · rw [if_neg hkind, if_neg hkind]
    exact .source h .nil

theorem alike_argumentParts (h : SameNames t u) (hkind : t.kind ≠ .string) :
    Alike t.argumentParts u.argumentParts := by
  rw [argumentParts, argumentParts]
  rcases h.child?_cases hkind .arguments with ⟨ht, hu⟩ | ⟨c, d, hc, hd, hcd, -⟩
  · rw [ht, hu]
    exact .nil
  · rw [hc, hd]
    exact hcd.alike_members (by simp)

theorem alike_parameterPart (h : SameNames t u) (hkind : t.kind ≠ .string) :
    Alike [t.parameterPart file] [u.parameterPart file] := by
  have hparameters : (t.parameters? = none ∧ u.parameters? = none) ∨
      ∃ c d, t.parameters? = some c ∧ u.parameters? = some d ∧ SameNames c d := by
    rw [parameters?, parameters?]
    rcases h.child?_cases hkind .parameters with ⟨ht, hu⟩ | ⟨c, d, hc, hd, hcd, -⟩
    · rw [ht, hu, Option.none_or, Option.none_or]
      rcases h.child?_cases hkind .parameter with hnone | ⟨c, d, hc, hd, hcd, -⟩
      · exact .inl hnone
      · exact .inr ⟨c, d, hc, hd, hcd⟩
    · rw [hc, hd]
      exact .inr ⟨c, d, rfl, rfl, hcd⟩
  rw [parameterPart, parameterPart]
  rcases hparameters with ⟨ht, hu⟩ | ⟨c, d, hc, hd, hcd⟩
  · rw [ht, hu]
    exact .node (by rw [h.mark_eq]) .nil
  · rw [hc, hd]
    exact .node (by rw [hcd.mark_eq]) (hcd.alike_members (by simp))

theorem alike_functionParts (h : SameNames t u) (hkind : t.kind ≠ .string)
    (name : Except DecodeFault Text) :
    Alike (t.functionParts file name) (u.functionParts file name) := by
  have hname :
      Alike [.made (t.markText file .name name) []] [.made (u.markText file .name name) []] :=
    .node (h.markText_eq .name name) .nil
  exact hname.append ((h.alike_parameterPart hkind).append (h.alike_fieldPart hkind .body))

theorem alike_declarator (h : SameNames t u) : Alike [t.declarator file] [u.declarator file] := by
  rw [declarator, declarator, h.kind_eq]
  by_cases hkind : t.kind = .variableDeclarator
  · have hnot : t.kind ≠ .string := by simp [hkind]
    rw [if_pos hkind, if_pos hkind]
    rcases h.child?_cases hnot .name with ⟨ht, hu⟩ | ⟨c, d, hc, hd, hcd, -⟩
    · rw [ht, hu]
      exact .node (by rw [h.ruleMark_eq]) (h.alike_fieldParts hnot .name .value)
    · rw [hc, hd]
      by_cases hidentifier : c.kind = .identifier
      · have hname : c.kind.isName = true := by rw [hidentifier]; rfl
        simp only [Option.filter, hcd.kind_eq, hidentifier, decide_true, if_true]
        refine .node ?_ (h.alike_fieldPart hnot .value)
        rw [hcd.markText_eq, hcd.text_eq hname]
      · simp only [Option.filter, hcd.kind_eq, hidentifier, decide_false]
        exact .node (by rw [h.ruleMark_eq]) (h.alike_fieldParts hnot .name .value)
  · rw [if_neg hkind, if_neg hkind]
    exact .source h .nil

theorem alike_declarators {ts us : List Concrete} (h : List.Forall₂ SameNames ts us) :
    Alike (ts.map (declarator file)) (us.map (declarator file)) := by
  induction h with
  | nil => exact .nil
  | cons htu _ ih => exact (alike_declarator htu).append ih

theorem keyword_eq (h : SameNames t u) (hkind : t.kind ≠ .string) :
    (u.children.head?.elim "var" fun c ↦ (Concrete.kind c).name) =
      t.children.head?.elim "var" fun c ↦ (Concrete.kind c).name := by
  have hchildren := h.children hkind
  generalize t.children = cs at hchildren ⊢
  generalize u.children = ds at hchildren ⊢
  cases hchildren with
  | nil => rfl
  | cons hcd _ =>
      rw [List.head?_cons, List.head?_cons, Option.elim_some, Option.elim_some, hcd.kind_eq]

theorem functionName_eq (h : SameNames t u) (hkind : t.kind ≠ .string)
    (hname : .name ∈ nameFields t.kind) :
    (u.child? .name).elim (.ok []) Concrete.text =
      (t.child? .name).elim (.ok []) Concrete.text := by
  rcases h.child?_cases hkind .name with ⟨ht, hu⟩ | ⟨c, d, hc, hd, -, htext⟩
  · rw [ht, hu]
  · rw [hc, hd, Option.elim_some, Option.elim_some, text, text, htext hname]

theorem alike_properties (h : SameNames t u) (hkind : t.kind = .memberExpression) :
    Alike ((t.child? .property).toList.map fun p ↦ .made (p.markText file .string p.text) [])
      ((u.child? .property).toList.map fun p ↦ .made (p.markText file .string p.text) []) := by
  rcases h.child?_cases (by simp [hkind]) .property with ⟨ht, hu⟩ | ⟨c, d, hc, hd, hcd, htext⟩
  · rw [ht, hu]
    exact .nil
  · have hproperty : d.text = c.text := by rw [text, text, htext (by rw [hkind]; decide)]
    rw [hc, hd]
    exact .node (by rw [hcd.markText_eq, hproperty]) .nil

/-- The step: trees with the same names are drafted alike. -/
theorem alike_outline (h : SameNames t u) :
    Alike [.made (t.outline file).mark (t.outline file).parts]
    [.made (u.outline file).mark (u.outline file).parts] := by
  have hkind' := h.kind_eq
  cases hkind : t.kind with
  | identifier | shorthandPropertyIdentifierPattern | propertyIdentifier
  | privatePropertyIdentifier =>
      rw [hkind] at hkind'
      simp only [outline, hkind, hkind']
      exact .node (by rw [h.markText_eq, h.text_eq (by rw [hkind]; rfl)]) .nil
  | shorthandPropertyIdentifier =>
      rw [hkind] at hkind'
      have htext := h.text_eq (by rw [hkind]; rfl)
      simp only [outline, hkind, hkind']
      exact .node (by rw [h.markText_eq, htext]) (.node (by rw [h.markText_eq, htext]) .nil)
  | string =>
      rw [hkind] at hkind'
      simp only [outline, hkind, hkind']
      exact .node (by rw [h.markText_eq, h.literalText_eq hkind]) .nil
  | number =>
      rw [hkind] at hkind'
      simp only [outline, hkind, hkind', h.numberText_eq hkind]
      cases t.text.map NumericLiteral.value? with
      | error fault => exact .node rfl .nil
      | ok x? =>
          cases x? with
          | none => exact .node (by rw [h.ruleMark_eq]) (h.alike_namedParts (by simp [hkind]))
          | some x => exact .node (by rw [h.mark_eq]) .nil
  | callExpression | newExpression =>
      rw [hkind] at hkind'
      have hnot : t.kind ≠ .string := by simp [hkind]
      simp only [outline, hkind, hkind']
      exact .node (by rw [h.mark_eq]) ((h.alike_fieldPart hnot _).append
        (h.alike_argumentParts hnot))
  | memberExpression =>
      rw [hkind] at hkind'
      have hobject := h.alike_fieldPart (by simp [hkind]) .object
      simp only [outline, hkind, hkind']
      exact .node (by rw [h.mark_eq]) (hobject.append (h.alike_properties hkind))
  | subscriptExpression | assignmentExpression =>
      rw [hkind] at hkind'
      simp only [outline, hkind, hkind']
      exact .node (by rw [h.mark_eq]) (h.alike_fieldParts (by simp [hkind]) _ _)
  | binaryExpression | augmentedAssignmentExpression =>
      rw [hkind] at hkind'
      have hnot : t.kind ≠ .string := by simp [hkind]
      simp only [outline, hkind, hkind']
      refine .node ?_ (h.alike_fieldParts hnot _ _)
      simp only [h.operator_eq hnot, h.mark_eq, h.ruleMark_eq]
  | variableDeclaration | lexicalDeclaration =>
      rw [hkind] at hkind'
      have hnot : t.kind ≠ .string := by simp [hkind]
      simp only [outline, hkind, hkind']
      exact .node (by rw [h.keyword_eq hnot, h.markWith_eq]) (alike_declarators (h.named hnot))
  | functionDeclaration | functionExpression | function | generatorFunctionDeclaration
  | generatorFunction | arrowFunction =>
      rw [hkind] at hkind'
      have hnot : t.kind ≠ .string := by simp [hkind]
      have hname := h.functionName_eq hnot (by rw [hkind]; decide)
      simp only [outline, hkind, hkind', hname]
      exact .node (by rw [h.mark_eq]) (h.alike_functionParts hnot _)
  | methodDefinition =>
      rw [hkind] at hkind'
      have hnot : t.kind ≠ .string := by simp [hkind]
      have hfunction : Alike [.made (.ok (t.mark file .function)) (t.functionParts file (.ok []))]
          [.made (.ok (u.mark file .function)) (u.functionParts file (.ok []))] :=
        .node (by rw [h.mark_eq]) (h.alike_functionParts hnot _)
      simp only [outline, hkind, hkind', h.bind_keyText?_eq hnot]
      cases (t.child? .name).bind Concrete.keyText? with
      | some key => exact .node (h.markText_eq .stringKey key) hfunction
      | none =>
          exact .node (congrArg Except.ok h.ruleMark_eq)
            ((h.alike_fieldPart hnot .name).append hfunction)
  | pair =>
      rw [hkind] at hkind'
      have hnot : t.kind ≠ .string := by simp [hkind]
      simp only [outline, hkind, hkind', h.bind_keyText?_eq hnot]
      cases (t.child? .key).bind Concrete.keyText? with
      | some key => exact .node (h.markText_eq .stringKey key) (h.alike_fieldPart hnot .value)
      | none => exact .node (congrArg Except.ok h.ruleMark_eq) (h.alike_fieldParts hnot .key .value)
  | program | statementBlock | classBody | expressionStatement | templateString | object =>
      rw [hkind] at hkind'
      simp only [outline, hkind, hkind']
      exact .node (by rw [h.mark_eq]) (h.alike_namedParts (by simp [hkind]))
  | _ =>
      rw [hkind] at hkind'
      simp only [outline, hkind, hkind']
      exact .node (by rw [h.ruleMark_eq]) (h.alike_namedParts (by simp [hkind]))

end SameNames

end Concrete

namespace Node

/-- Drafts that are alike are skipped together, or expanded to outlines with the same mark and parts
that are alike. -/
theorem Draft.Alike.uncons {d : Draft} {ds es : List Draft} (h : Alike (d :: ds) es) (file : Text) :
    ∃ e fs, es = e :: fs ∧ Alike ds fs ∧
      ((d.expand file = none ∧ e.expand file = none) ∨
        ∃ o p, d.expand file = some o ∧ e.expand file = some p ∧ p.mark = o.mark ∧
          Alike o.parts p.parts) := by
  cases h with
  | @made mark ps qs _ fs hparts hrest =>
      exact ⟨_, fs, rfl, hrest, .inr ⟨⟨mark, ps⟩, ⟨mark, qs⟩, rfl, rfl, rfl, hparts⟩⟩
  | @source t u _ fs h hrest =>
      refine ⟨_, fs, rfl, hrest, ?_⟩
      have hunwrap : Concrete.SameNames t.unwrap u.unwrap := h.unwrap
      rw [expand, expand, hunwrap.kind_eq]
      by_cases hskipped : t.unwrap.kind.isSkipped = true
      · rw [if_pos hskipped, if_pos hskipped]
        exact .inl ⟨rfl, rfl⟩
      · rw [if_neg hskipped, if_neg hskipped]
        have houtline : Alike [.made (t.unwrap.outline file).mark (t.unwrap.outline file).parts]
          [.made (u.unwrap.outline file).mark (u.unwrap.outline file).parts] :=
            hunwrap.alike_outline
        refine .inr ⟨_, _, rfl, rfl, ?_⟩
        generalize (t.unwrap.outline file).mark = mark at houtline ⊢
        generalize (u.unwrap.outline file).mark = mark' at houtline ⊢
        cases houtline with
        | made hparts _ => exact ⟨rfl, hparts⟩

/-- The run: drafts that are alike become the same nodes. -/
theorem convert_eq_of_alike {file : Text} {ds es : List Draft} (h : Draft.Alike ds es) :
    Draft.convert file es = Draft.convert file ds := by
  fun_induction Draft.convert file ds generalizing es with
  | case1 =>
      cases h
      exact Draft.convert_nil file
  | case2 d ds hd ih =>
      obtain ⟨e, fs, rfl, hrest, ⟨-, he⟩ | ⟨o, -, ho, -⟩⟩ := h.uncons file
      · rw [Draft.convert_cons_of_none he, ih hrest]
      · rw [hd] at ho
        cases ho
  | case3 d ds o hd ihparts ihrest =>
      obtain ⟨e, fs, rfl, hrest, ⟨hnone, -⟩ | ⟨o', p, ho, hp, hmark, hparts⟩⟩ := h.uncons file
      · rw [hd] at hnone
        cases hnone
      · obtain rfl := Option.some.inj (hd.symm.trans ho)
        rw [Draft.convert_cons_of_some hp, hmark, ihparts hparts, ihrest hrest]
        rfl

/-- Trees with the same names become the same analysed tree. -/
theorem ofConcrete_eq_of_sameNames {file : Text} {t u : Concrete} (h : t.SameNames u) :
    ofConcrete file u = ofConcrete file t := by
  rw [ofConcrete_eq, ofConcrete_eq, convert_eq_of_alike (.source h .nil)]

end Node

namespace Concrete

def audit (file : Text) (forbidden : Forbidden) (dedupe : Bool) (t : Concrete) :
    Except Abort FileReport := do
  match ← (Node.ofConcrete file t).mapError .undecodable with
  | none => throw .nothing
  | some root =>
    let r ← ((Run.start forbidden dedupe).walk (.root root)).mapError .unresolvable
    pure (.ofRun file r)

end Concrete

/-- A file without syntax problems is audited by its tree. -/
theorem Source.check_eq_audit {grammar : Grammar} {s : Source}
    (hencodable : s.content.hasSurrogate = false)
    (hclean : Concrete.problems s.name (grammar s.content) = []) (forbidden : Forbidden)
    (dedupe : Bool) :
    s.check grammar forbidden dedupe = (grammar s.content).audit s.name forbidden dedupe := by
  have hconcrete : s.concrete grammar = .ok (grammar s.content) := by
    rw [concrete, hencodable, if_neg Bool.false_ne_true]
  rw [check, read, hconcrete, ok_bind, hclean, Concrete.audit]
  cases (Node.ofConcrete s.name (grammar s.content)).mapError Abort.undecodable with
  | error e => rfl
  | ok root? =>
      cases root? with
      | none => rfl
      | some root => rfl

namespace Concrete

/-- Trees of the same shape lead to the same report, for every set of forbidden names and with or
without deduplication, if their names are the same texts and their string literals have the same
values. -/
theorem audit_eq_of_sameNames {t u : Concrete} (h : t.SameNames u) (file : Text)
    (forbidden : Forbidden) (dedupe : Bool) :
    t.audit file forbidden dedupe = u.audit file forbidden dedupe := by
  rw [audit, audit, Node.ofConcrete_eq_of_sameNames h]

/-! ### Respelled scripts -/

theorem Respelled.refl {names strings : List UInt8 → List UInt8 → Prop} (hnames : ∀ x, names x x)
    (hstrings : ∀ x, strings x x) (t : Concrete) : Respelled names strings t t := by
  induction t using Tree.induction with
  | node m cs ih =>
      have hshape : m.SameShape m := ⟨rfl, rfl, rfl, rfl, rfl, rfl⟩
      by_cases hkind : m.kind = .string
      · exact .string hshape hkind (hstrings m.text)
      · refine .node hshape hkind (fun _ ↦ hnames m.text) (fun _ ↦ rfl) ?_ ?_
        · exact List.forall₂_same.mpr fun c _ f _ _ ↦ hnames c.label.text
        · exact List.forall₂_same.mpr ih

/-- Nodes whose text is not read are respelled with their children. -/
theorem Respelled.branch {names strings : List UInt8 → List UInt8 → Prop} {k : Kind}
    (f? : Option Field) {cs ds : List Concrete} (hkind : k.isText = false)
    (hfields : nameFields k = []) (h : List.Forall₂ (Respelled names strings) cs ds) :
    Respelled names strings (Concrete.branch k f? cs) (Concrete.branch k f? ds) := by
  refine .node ⟨rfl, rfl, rfl, rfl, rfl, rfl⟩ ?_ ?_ (fun _ ↦ rfl) ?_ h
  · rintro rfl
    cases hkind
  · intro hname
    rw [Kind.isText_of_isName hname] at hkind
    cases hkind
  · change List.Forall₂ (fun c d ↦ ∀ f ∈ nameFields k, c.label.field? = some f → _) cs ds
    rw [hfields]
    exact List.Forall₂.imp (fun _ _ _ f hf ↦ absurd hf List.not_mem_nil) h

def identifierCall (name : String) : Concrete :=
  branch .program none [
    branch .expressionStatement none [
      branch .callExpression none [
        word .identifier (some .function) name,
        branch .arguments (some .arguments) [token none "(", token none ")"]]]]

def memberCall (key : String) : Concrete :=
  branch .program none [
    branch .expressionStatement none [
      branch .callExpression none [
        branch .subscriptExpression (some .function) [
          word .identifier (some .object) "o", token none "[", word .string (some .index) key,
          token none "]"],
        branch .arguments (some .arguments) [token none "(", token none ")"]]]]

section

variable {names strings : List UInt8 → List UInt8 → Prop} (hnames : ∀ x, names x x)
  (hstrings : ∀ x, strings x x)

include hnames hstrings

theorem respelled_identifierCall {name name' : String} (h : names (ascii name) (ascii name')) :
    Respelled names strings (identifierCall name) (identifierCall name') := by
  have hsame := Respelled.refl hnames hstrings
  have hidentifier : Respelled names strings (word .identifier (some .function) name)
      (word .identifier (some .function) name') :=
    .node ⟨rfl, rfl, rfl, rfl, rfl, rfl⟩ Kind.noConfusion (fun _ ↦ h) (fun hkind ↦ by cases hkind)
      .nil .nil
  refine .branch none rfl rfl (.cons (.branch none rfl rfl (.cons ?_ .nil)) .nil)
  exact .branch none rfl rfl (.cons hidentifier (.cons (hsame _) .nil))

theorem respelled_memberCall {key key' : String} (h : strings (ascii key) (ascii key')) :
    Respelled names strings (memberCall key) (memberCall key') := by
  have hsame := Respelled.refl hnames hstrings
  have hliteral :
      Respelled names strings (word .string (some .index) key) (word .string (some .index) key') :=
    .string ⟨rfl, rfl, rfl, rfl, rfl, rfl⟩ rfl h
  refine .branch none rfl rfl (.cons (.branch none rfl rfl (.cons ?_ .nil)) .nil)
  refine .branch none rfl rfl (.cons (.branch _ rfl rfl ?_) (.cons (hsame _) .nil))
  exact .cons (hsame _) (.cons (hsame _) (.cons hliteral (.cons (hsame _) .nil)))

end

theorem audit_eq_of_sameNames_memberCall :
    (memberCall "'eval'").audit "t.js" (.ofNames ["eval"]) true =
        (memberCall "'\\x65v\\u\x7b61\x7dl'").audit "t.js" (.ofNames ["eval"]) true ∧
      ((memberCall "'eval'").audit "t.js" (.ofNames ["eval"]) true).map FileReport.violations =
        .ok [⟨"eval", ⟨"t.js", 1⟩⟩] := by
  have hkey : SameValue (StringLiteral.HasValue StringLiteral.Separate) (ascii "'eval'")
      (ascii "'\\x65v\\u\x7b61\x7dl'") := by
    refine .inr ⟨"'eval'", "'\\x65v\\u\x7b61\x7dl'", "eval", by decide +kernel, by decide +kernel,
      ?_, ?_⟩
    · exact ⟨.apostrophe, by decide, [.plain 'e', .plain 'v', .plain 'a', .plain 'l'], by decide,
        by decide, by decide⟩
    · exact ⟨.apostrophe, by decide, [.byte "65", .plain 'v', .point "61", .plain 'l'], by decide,
        by decide, by decide⟩
  have hsame : SameNames (memberCall "'eval'") (memberCall "'\\x65v\\u\x7b61\x7dl'") :=
    respelled_memberCall (fun _ ↦ rfl) (fun _ ↦ .inl rfl) hkey
  exact ⟨audit_eq_of_sameNames hsame "t.js" (.ofNames ["eval"]) true, by decide +kernel⟩

/-- Trees of the same shape whose names and whose string literals have the same values in the
language. -/
abbrev SameValues : Concrete → Concrete → Prop :=
  Respelled (SameValue Identifier.HasValue)
    (SameValue (StringLiteral.HasValue StringLiteral.Standard))

/-- An identifier with an escape is another name, and so is a literal with an octal escape that is
read too far. -/
theorem audit_depends_on_spelling :
    (SameValues (identifierCall "eval") (identifierCall "\\u0065val") ∧
      ((identifierCall "eval").audit "t.js" (.ofNames ["eval"]) false).map FileReport.violations =
        .ok [⟨"eval", ⟨"t.js", 1⟩⟩] ∧
      ((identifierCall "\\u0065val").audit "t.js" (.ofNames ["eval"]) false).map
        FileReport.violations = .ok []) ∧
    SameValues (memberCall "'\\50\\x31'") (memberCall "'\\501'") ∧
      ((memberCall "'\\50\\x31'").audit "t.js" (.ofNames ["(1"]) false).map FileReport.violations =
        .ok [⟨"(1", ⟨"t.js", 1⟩⟩] ∧
      ((memberCall "'\\501'").audit "t.js" (.ofNames ["(1"]) false).map FileReport.violations =
        .ok [] := by
  have hname : SameValue Identifier.HasValue (ascii "eval") (ascii "\\u0065val") := by
    refine .inr ⟨"eval", "\\u0065val", "eval", by decide +kernel, by decide +kernel, ?_, ?_⟩
    · exact ⟨[.plain 'e', .plain 'v', .plain 'a', .plain 'l'], by decide, by decide, by decide⟩
    · exact ⟨[.unit "0065", .plain 'v', .plain 'a', .plain 'l'], by decide, by decide, by decide⟩
  have hkey :
      SameValue (StringLiteral.HasValue StringLiteral.Standard) (ascii "'\\50\\x31'")
        (ascii "'\\501'") := by
    refine .inr ⟨"'\\50\\x31'", "'\\501'", "(1", by decide +kernel, by decide +kernel, ?_, ?_⟩
    · exact ⟨.apostrophe, by decide, [.octal "50", .byte "31"], by decide, by decide, by decide⟩
    · exact ⟨.apostrophe, by decide, [.octal "50", .plain '1'], by decide, by decide, by decide⟩
  refine ⟨⟨?_, by decide +kernel, by decide +kernel⟩, ?_, by decide +kernel, by decide +kernel⟩
  · exact respelled_identifierCall (fun _ ↦ .inl rfl) (fun _ ↦ .inl rfl) hname
  · exact respelled_memberCall (fun _ ↦ .inl rfl) (fun _ ↦ .inl rfl) hkey

end Concrete

end CallAudit
