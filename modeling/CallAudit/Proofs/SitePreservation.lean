import CallAudit.Proofs.CallSites

/-!
# Call sites through the conversion

The conversion of a tree of the grammar keeps its call sites in order, with their lines, and adds
none; only the sites in the decorators of methods are lost.  Each kind of node is looked at once, in
`carries_outline`, and the rest follows the recursion of the conversion.
-/

namespace CallAudit

namespace Node

variable {ι : Type}

def Mark.callSite? (m : Mark ι) : Option CallSite :=
  match m.kind with
  | .call | .new => some ⟨m.kind, m.line⟩
  | _ => none

def callSites (n : Node ι) : List CallSite := n.collect Mark.callSite?

def markSites : Except DecodeFault (Mark Unit) → List CallSite
  | .ok m => m.callSite?.toList
  | .error _ => []

theorem markSites_markText (t : Concrete) (file : Text) {k : Kind} (s : Except DecodeFault Text)
    (hk : k = .name ∨ k = .string ∨ k = .stringKey) : markSites (t.markText file k s) = [] := by
  cases s with
  | error fault => rfl
  | ok s => rcases hk with rfl | rfl | rfl <;> rfl

/-- Drafts that follow the grammar, and the call sites that are to be found in the nodes they
become. -/
inductive Draft.Carries : List Draft → List CallSite → Prop
  | nil : Carries [] []
  | source {t : Concrete} {ds : List Draft} {sites : List CallSite} (h : t.Grammatical)
      (ht : t.label.isSignificant = true) (hrest : Carries ds sites) :
      Carries (.source t :: ds) (t.keptSites ++ sites)
  | made {mark : Except DecodeFault (Mark Unit)} {parts ds : List Draft}
      {below sites : List CallSite} (hparts : Carries parts below) (hrest : Carries ds sites) :
      Carries (.made mark parts :: ds) ((markSites mark ++ below) ++ sites)

namespace Draft.Carries

theorem append {ds es : List Draft} {ss rs : List CallSite} (hds : Carries ds ss)
    (hes : Carries es rs) :
    Carries (ds ++ es) (ss ++ rs) := by
  induction hds with
  | nil => exact hes
  | source h ht _ ih =>
      rw [List.cons_append, List.append_assoc]
      exact .source h ht ih
  | made hparts _ _ ih =>
      rw [List.cons_append, List.append_assoc]
      exact .made hparts ih

theorem node {mark : Except DecodeFault (Mark Unit)} {parts : List Draft}
    {below sites : List CallSite} (hparts : Carries parts below)
    (hsites : sites = markSites mark ++ below) : Carries [.made mark parts] sites := by
  rw [hsites, ← List.append_nil (markSites mark ++ below)]
  exact .made hparts .nil

theorem single {t : Concrete} (h : t.Grammatical) (ht : t.label.isSignificant = true) :
    Carries [.source t] t.keptSites := by
  rw [← List.append_nil t.keptSites]
  exact .source h ht .nil

theorem sources {ts : List Concrete} (h : ∀ t ∈ ts, t.Grammatical ∧ t.label.isSignificant = true) :
    Carries (ts.map .source) (ts.flatMap Concrete.keptSites) := by
  induction ts with
  | nil => exact .nil
  | cons t ts ih =>
      obtain ⟨ht, hsignificant⟩ := h t List.mem_cons_self
      exact .source ht hsignificant (ih fun u hu ↦ h u (List.mem_cons_of_mem t hu))

end Draft.Carries

end Node

namespace Concrete

open Node (Draft markSites markSites_markText)
open Node.Draft (Carries)

variable {file : Text} {t : Concrete}

theorem callSite?_eq (t : Concrete) :
    t.label.callSite? = t.kind.siteKind?.map fun k ↦ ⟨k, t.line⟩ := rfl

theorem isPlain_of_isText (hkind : t.kind.isText = true) : t.label.isPlain = true := by
  have hlabel : t.label.kind.isText = true := hkind
  rw [Mark.isPlain, hlabel, Bool.or_true]

theorem isText_of_keyText? {key : Except DecodeFault Text} (h : t.keyText? = some key) :
    t.kind.isText = true := by
  unfold keyText? at h
  cases hkind : t.kind <;> simp_all [Kind.isText]

namespace Grammatical

theorem carries_namedParts (h : t.Grammatical) :
    Carries t.namedParts (t.named.flatMap keptSites) := by
  refine .sources fun c hc ↦ ?_
  have hmem := List.mem_filter.mp hc
  exact ⟨h.of_mem_children hmem.1, hmem.2⟩

theorem carries_named (h : t.Grammatical) {mark : Except DecodeFault (Node.Mark Unit)}
    (hkind : t.kind ≠ .methodDefinition) (hmark : t.label.callSite?.toList = markSites mark) :
    Carries [.made mark t.namedParts] t.keptSites := by
  refine .node h.carries_namedParts ?_
  rw [h.keptSites_eq_named hkind, hmark]

/-- A list of arguments or parameters stands for its members, any other node for itself. -/
theorem carries_members (h : t.Grammatical) (ht : t.label.isSignificant = true) {k : Kind}
    (hk : k = .arguments ∨ k = .formalParameters) :
    Carries (if t.kind = k then t.namedParts else [.source t]) t.keptSites := by
  by_cases hkind : t.kind = k
  · have hsites : t.keptSites = t.named.flatMap keptSites := by
      have hsite := callSite?_eq t
      rw [hkind] at hsite
      rw [h.keptSites_eq_named (by rcases hk with rfl | rfl <;> simp [hkind]), hsite]
      rcases hk with rfl | rfl <;> rfl
    rw [if_pos hkind, hsites]
    exact h.carries_namedParts
  · rw [if_neg hkind]
    exact .single h ht

/-- A field is converted to what carries its sites. -/
theorem carries_fieldPart (h : t.Grammatical) (ht : t.label.isSignificant = true) {f : Field}
    (hf : f ∈ (layouts t.kind).flatten) : Carries (t.fieldPart f) (t.fieldSites f) := by
  refine .sources fun c hc ↦ ?_
  have hpart := h.mem_ruleParts_of_child? ht hf (Option.mem_toList.mp hc)
  exact ⟨h.of_mem_children (mem_ruleParts.mp hpart).1, isSignificant_of_mem_ruleParts hpart⟩

theorem carries_argumentParts (h : t.Grammatical) (ht : t.label.isSignificant = true)
    (hf : .arguments ∈ (layouts t.kind).flatten) :
    Carries t.argumentParts (t.fieldSites .arguments) := by
  unfold argumentParts
  cases hargs : t.child? .arguments with
  | none =>
      rw [fieldSites_of_none hargs]
      exact .nil
  | some args =>
      have hpart := h.mem_ruleParts_of_child? ht hf hargs
      rw [fieldSites_of_some hargs]
      exact (h.of_mem_children (mem_ruleParts.mp hpart).1).carries_members
        (isSignificant_of_mem_ruleParts hpart) (.inl rfl)

theorem fieldSites_of_isText (h : t.Grammatical) {f : Field}
    (htext : ∀ c, t.child? f = some c → c.kind.isText = true) :
    t.fieldSites f = [] := by
  cases hc : t.child? f with
  | none => exact fieldSites_of_none hc
  | some c =>
      rw [fieldSites_of_some hc]
      exact (h.of_mem_children (mem_children_of_child? hc)).keptSites_eq_nil
        (isPlain_of_isText (htext c hc))

/-- Bare names hold no call sites. -/
theorem fieldSites_of_mem_nameFields (h : t.Grammatical) {f : Field} (hf : f ∈ nameFields t.kind) :
    t.fieldSites f = [] := by
  refine h.fieldSites_of_isText fun c hc ↦ ?_
  have hfield : c.label.field? = some f := by simpa using List.find?_some hc
  exact (Tree.Everywhere.at_root h).names c.label (List.mem_map_of_mem (mem_children_of_child? hc))
    f hf hfield

/-- Keys that are written out hold no call sites. -/
theorem fieldSites_of_keyText? (h : t.Grammatical) {f : Field} {key : Except DecodeFault Text}
    (hkey : (t.child? f).bind keyText? = some key) : t.fieldSites f = [] := by
  refine h.fieldSites_of_isText fun c hc ↦ ?_
  rw [hc, Option.bind_some] at hkey
  exact isText_of_keyText? hkey

theorem fieldSites_parameters (h : t.Grammatical) (ht : t.label.isSignificant = true)
    (hlayouts : layouts t.kind = layouts .function) :
    t.fieldSites .parameters ++ t.fieldSites .parameter =
      t.parameters?.toList.flatMap keptSites := by
  -- no form of the rule has both fields, so the alternative of `parameters?` loses nothing
  obtain ⟨fs, hfs, -, hothers⟩ := h.exists_layout ht (by rw [hlayouts]; decide)
  rw [hlayouts] at hfs hothers
  have hcases : t.child? .parameter = none ∨ t.child? .parameters = none := by
    have hforms : ∀ fs ∈ layouts .function, .parameter ∉ fs ∨ .parameters ∉ fs := by decide
    rcases hforms fs hfs with hnot | hnot
    · exact .inl (hothers .parameter (by decide) hnot)
    · exact .inr (hothers .parameters (by decide) hnot)
  rcases hcases with hnone | hnone
  · rw [fieldSites_of_none hnone, List.append_nil, parameters?, hnone, Option.or_none, fieldSites]
  · rw [fieldSites_of_none hnone, List.nil_append, parameters?, hnone, Option.none_or, fieldSites]

theorem mem_ruleParts_of_parameters? (h : t.Grammatical) (ht : t.label.isSignificant = true)
    (hlayouts : layouts t.kind = layouts .function) {c : Concrete} (hc : t.parameters? = some c) :
    c ∈ t.ruleParts := by
  rcases Option.or_eq_some_iff.mp hc with hc | ⟨-, hc⟩
  · exact h.mem_ruleParts_of_child? ht (by rw [hlayouts]; decide) hc
  · exact h.mem_ruleParts_of_child? ht (by rw [hlayouts]; decide) hc

theorem carries_parameterPart (h : t.Grammatical) (ht : t.label.isSignificant = true)
    (hlayouts : layouts t.kind = layouts .function) :
    Carries [t.parameterPart file] (t.fieldSites .parameters ++ t.fieldSites .parameter) := by
  rw [h.fieldSites_parameters ht hlayouts]
  unfold parameterPart
  cases hparams : t.parameters? with
  | none => exact .node .nil rfl
  | some params =>
      have hpart := h.mem_ruleParts_of_parameters? ht hlayouts hparams
      have hmembers := (h.of_mem_children (mem_ruleParts.mp hpart).1).carries_members
        (isSignificant_of_mem_ruleParts hpart) (.inr rfl)
      exact .node hmembers (List.flatMap_singleton ..)

/-- The name of a function holds no sites. -/
theorem carries_functionParts (h : t.Grammatical) (ht : t.label.isSignificant = true)
    (hlayouts : layouts t.kind = layouts .function) (name : Except DecodeFault Text) :
    Carries (t.functionParts file name)
      ((t.fieldSites .parameters ++ t.fieldSites .parameter) ++ t.fieldSites .body) := by
  have hname : Carries [.made (t.markText file .name name) []] [] :=
    .node .nil (by rw [markSites_markText t file name (.inl rfl)]; rfl)
  have hparameters : Carries [t.parameterPart file] _ := h.carries_parameterPart ht hlayouts
  have hbody := h.carries_fieldPart ht (f := .body) (by rw [hlayouts]; decide)
  exact hname.append (hparameters.append hbody)

theorem keptSites_function (h : t.Grammatical) (ht : t.label.isSignificant = true)
    (hlayouts : layouts t.kind = layouts .function) (hsite : t.label.callSite? = none) :
    t.keptSites =
      t.fieldSites .name ++ ((t.fieldSites .parameters ++ t.fieldSites .parameter) ++
        t.fieldSites .body) := by
  have horder : IsFieldOrder t.kind [.name, .parameters, .parameter, .body] := by
    rw [IsFieldOrder, hlayouts]
    decide
  rw [h.keptSites_eq_fields ht horder, hsite]
  simp

theorem carries_declarator (h : t.Grammatical) (ht : t.label.isSignificant = true) :
    Carries [t.declarator file] t.keptSites := by
  unfold declarator
  by_cases hkind : t.kind = .variableDeclarator
  · have horder : IsFieldOrder t.kind [.name, .value] := by
      rw [hkind]
      decide
    have hsites : t.keptSites = t.fieldSites .name ++ t.fieldSites .value := by
      rw [h.keptSites_eq_fields ht horder, callSite?_eq, hkind]
      simp [Kind.siteKind?]
    have hvalue := h.carries_fieldPart ht (f := .value) (by rw [hkind]; decide)
    rw [if_pos hkind]
    cases hname : (t.child? .name).filter (·.kind = .identifier) with
    | some name =>
        obtain ⟨hchild, hidentifier⟩ := Option.filter_eq_some_iff.mp hname
        have hnil : t.fieldSites .name = [] := by
          refine h.fieldSites_of_isText fun c hc ↦ ?_
          obtain rfl := Option.some.inj (hchild.symm.trans hc)
          rw [of_decide_eq_true hidentifier]
          rfl
        refine .node hvalue ?_
        rw [hsites, hnil, markSites_markText name file name.text (.inl rfl)]
    | none =>
        have hpattern := h.carries_fieldPart ht (f := .name) (by rw [hkind]; decide)
        exact .node (hpattern.append hvalue) hsites
  · rw [if_neg hkind]
    exact .single h ht

theorem carries_declarators (h : t.Grammatical) :
    Carries (t.named.map (declarator file)) (t.named.flatMap keptSites) := by
  have hnamed : ∀ c ∈ t.named, c.Grammatical ∧ c.label.isSignificant = true := by
    intro c hc
    have hmem := List.mem_filter.mp hc
    exact ⟨h.of_mem_children hmem.1, hmem.2⟩
  generalize t.named = cs at hnamed
  induction cs with
  | nil => exact .nil
  | cons c cs ih =>
      obtain ⟨hc, hsignificant⟩ := hnamed c List.mem_cons_self
      exact (hc.carries_declarator hsignificant).append
        (ih fun d hd ↦ hnamed d (List.mem_cons_of_mem c hd))

/-- A node over the parts of two fields. -/
theorem carries_pair (h : t.Grammatical) (ht : t.label.isSignificant = true) {f g : Field}
    {mark : Except DecodeFault (Node.Mark Unit)} {ps qs : List Draft}
    (horder : IsFieldOrder t.kind [f, g]) (hmark : t.label.callSite?.toList = markSites mark)
    (hps : Carries ps (t.fieldSites f)) (hqs : Carries qs (t.fieldSites g)) :
    Carries [.made mark (ps ++ qs)] t.keptSites := by
  refine .node (hps.append hqs) ?_
  rw [h.keptSites_eq_fields ht horder, hmark, List.flatMap_cons, List.flatMap_singleton]

theorem carries_fields (h : t.Grammatical) (ht : t.label.isSignificant = true) {f g : Field}
    {mark : Except DecodeFault (Node.Mark Unit)} (horder : IsFieldOrder t.kind [f, g])
    (hmark : t.label.callSite?.toList = markSites mark) :
    Carries [.made mark (t.fieldPart f ++ t.fieldPart g)] t.keptSites :=
  h.carries_pair ht horder hmark (h.carries_fieldPart ht (horder.2.2.2 f (by simp)))
    (h.carries_fieldPart ht (horder.2.2.2 g (by simp)))

theorem carries_call (h : t.Grammatical) (ht : t.label.isSignificant = true) {f : Field}
    {mark : Except DecodeFault (Node.Mark Unit)} (horder : IsFieldOrder t.kind [f, .arguments])
    (hmark : t.label.callSite?.toList = markSites mark) :
    Carries [.made mark (t.fieldPart f ++ t.argumentParts)] t.keptSites :=
  h.carries_pair ht horder hmark (h.carries_fieldPart ht (horder.2.2.2 f (by simp)))
    (h.carries_argumentParts ht (horder.2.2.2 .arguments (by simp)))

theorem carries_memberExpression (h : t.Grammatical) (ht : t.label.isSignificant = true)
    (hkind : t.kind = .memberExpression) :
    Carries [.made (.ok (t.mark file .getProp)) (t.fieldPart .object ++
      (t.child? .property).toList.map fun p ↦ .made (p.markText file .string p.text) [])]
        t.keptSites := by
  have horder : IsFieldOrder t.kind [.object, .property] := by
    rw [hkind]
    decide
  have hproperty :
      Carries ((t.child? .property).toList.map fun p ↦ .made (p.markText file .string p.text) [])
      (t.fieldSites .property) := by
    -- the property is not converted, only its text is kept, so it must not hold sites
    rw [h.fieldSites_of_mem_nameFields (by rw [hkind]; decide)]
    cases t.child? .property with
    | none => exact .nil
    | some p => exact .node .nil (by rw [markSites_markText p file p.text (.inr (.inl rfl))]; rfl)
  have hobject := h.carries_fieldPart ht (horder.2.2.2 .object (by simp))
  exact h.carries_pair ht horder (by rw [callSite?_eq, hkind]; rfl) hobject hproperty

/-- The decorators stand beside the parts and are not asked for. -/
theorem carries_methodDefinition (h : t.Grammatical) (ht : t.label.isSignificant = true)
    (hkind : t.kind = .methodDefinition) :
    Carries [.made (t.outline file).mark (t.outline file).parts] t.keptSites := by
  have hlayouts : layouts t.kind = layouts .function := by
    rw [hkind]
    rfl
  have hsites := h.keptSites_function ht hlayouts (by rw [callSite?_eq, hkind]; rfl)
  have hfunction : Carries [.made (.ok (t.mark file .function)) (t.functionParts file (.ok []))]
      ((t.fieldSites .parameters ++ t.fieldSites .parameter) ++ t.fieldSites .body) :=
    .node (h.carries_functionParts ht hlayouts (.ok [])) rfl
  simp only [outline, hkind]
  -- a name that is written out becomes the text of the key; a computed one is converted and may
  -- hold sites
  cases hkey : (t.child? .name).bind keyText? with
  | some key =>
      refine .node hfunction ?_
      rw [hsites, h.fieldSites_of_keyText? hkey, markSites_markText t file key (.inr (.inr rfl))]
  | none =>
      have hname := h.carries_fieldPart ht (f := .name) (by rw [hlayouts]; decide)
      exact .node (hname.append hfunction) hsites

/-- The step: what a node of the grammar is drafted as carries the sites of the node, without those
in the decorators of a method. -/
theorem carries_outline (h : t.Grammatical) (ht : t.label.isSignificant = true) :
    Carries [.made (t.outline file).mark (t.outline file).parts] t.keptSites := by
  have hsite := callSite?_eq t
  cases hkind : t.kind with
  | identifier | shorthandPropertyIdentifierPattern =>
      have hnil := h.keptSites_eq_nil (isPlain_of_isText (by rw [hkind]; rfl))
      simp only [outline, hkind]
      exact .node .nil (by rw [hnil, markSites_markText t file _ (.inl rfl)]; rfl)
  | propertyIdentifier | privatePropertyIdentifier | string =>
      have hnil := h.keptSites_eq_nil (isPlain_of_isText (by rw [hkind]; rfl))
      simp only [outline, hkind]
      exact .node .nil (by rw [hnil, markSites_markText t file _ (.inr (.inl rfl))]; rfl)
  | number =>
      have hnil := h.keptSites_eq_nil (isPlain_of_isText (by rw [hkind]; rfl))
      rw [hkind] at hsite
      simp only [outline, hkind]
      -- a text that is no number makes a node of its own kind over the named children
      cases t.text.map NumericLiteral.value? with
      | error fault => exact .node .nil hnil
      | ok x? =>
          cases x? with
          | none => exact h.carries_named (by simp [hkind]) (by rw [hsite]; rfl)
          | some x => exact .node .nil hnil
  | shorthandPropertyIdentifier =>
      have hnil := h.keptSites_eq_nil (isPlain_of_isText (by rw [hkind]; rfl))
      have hname : Carries [.made (t.markText file .name t.text) []] [] :=
        .node .nil (by rw [markSites_markText t file _ (.inl rfl)]; rfl)
      simp only [outline, hkind]
      exact .node hname (by rw [hnil, markSites_markText t file _ (.inr (.inr rfl))]; rfl)
  | callExpression | newExpression =>
      rw [hkind] at hsite
      simp only [outline, hkind]
      exact h.carries_call ht (by rw [hkind]; decide) (by rw [hsite]; rfl)
  | memberExpression =>
      simp only [outline, hkind]
      exact h.carries_memberExpression ht hkind
  | subscriptExpression | assignmentExpression =>
      rw [hkind] at hsite
      simp only [outline, hkind]
      exact h.carries_fields ht (by rw [hkind]; decide) (by rw [hsite]; rfl)
  | binaryExpression | augmentedAssignmentExpression =>
      rw [hkind] at hsite
      simp only [outline, hkind]
      refine h.carries_fields ht (by rw [hkind]; decide) ?_
      rw [hsite]
      split <;> rfl
  | variableDeclaration | lexicalDeclaration =>
      rw [hkind] at hsite
      simp only [outline, hkind]
      refine .node h.carries_declarators ?_
      rw [h.keptSites_eq_named (by simp [hkind]), hsite]
      rfl
  | functionDeclaration | functionExpression | function | generatorFunctionDeclaration
  | generatorFunction | arrowFunction =>
      rw [hkind] at hsite
      have hlayouts : layouts t.kind = layouts .function := by simp only [hkind, layouts]
      have hname : t.fieldSites .name = [] := h.fieldSites_of_mem_nameFields (by rw [hkind]; decide)
      simp only [outline, hkind]
      refine .node (h.carries_functionParts ht hlayouts _) ?_
      rw [h.keptSites_function ht hlayouts hsite, hname]
      rfl
  | methodDefinition => exact h.carries_methodDefinition ht hkind
  | pair =>
      rw [hkind] at hsite
      have horder : IsFieldOrder t.kind [.key, .value] := by
        rw [hkind]
        decide
      simp only [outline, hkind]
      cases hkey : (t.child? .key).bind keyText? with
      | none => exact h.carries_fields ht horder (by rw [hsite]; rfl)
      | some key =>
          have hnil := h.fieldSites_of_keyText? hkey
          refine .node (h.carries_fieldPart ht (horder.2.2.2 .value (by simp))) ?_
          rw [h.keptSites_eq_fields ht horder, hsite,
            markSites_markText t file key (.inr (.inr rfl))]
          simp [Kind.siteKind?, hnil]
  | _ =>
      rw [hkind] at hsite
      simp only [outline, hkind]
      exact h.carries_named (by simp [hkind]) (by rw [hsite]; rfl)

end Grammatical

end Concrete

namespace Concrete.Grammatical

variable {t : Concrete}

/-- Parentheses neither hide a site nor are one. -/
theorem unwrap (h : t.Grammatical) (ht : t.label.isSignificant = true) :
    t.unwrap.Grammatical ∧ t.unwrap.label.isSignificant = true ∧
      t.unwrap.keptSites = t.keptSites := by
  fun_induction Concrete.unwrap t with
  | case1 t inner henclosed ih =>
      obtain ⟨hkind, hnamed⟩ : t.kind = .parenthesizedExpression ∧ t.named = [inner] := by
        unfold enclosed? at henclosed
        split at henclosed
        · next hkind hnamed => exact ⟨hkind, by rw [hnamed, Option.some.inj henclosed]⟩
        · simp at henclosed
      have hinner := List.mem_filter.mp (mem_named_of_enclosed? henclosed)
      have hsites : t.keptSites = inner.keptSites := by
        rw [h.keptSites_eq_named (by simp [hkind]), callSite?_eq, hkind, hnamed]
        exact List.flatMap_singleton ..
      rw [hsites]
      exact ih (h.of_mem_children hinner.1) hinner.2
  | case2 t henclosed => exact ⟨h, ht, rfl⟩

end Concrete.Grammatical

namespace Node

open Draft (Carries)

/-- The first of some drafts is expanded, and its outline and the other drafts share its sites. -/
theorem Draft.Carries.uncons {d : Draft} {ds : List Draft} {sites : List CallSite}
    (h : Carries (d :: ds) sites) (file : Text) :
    ∃ o below rest, d.expand file = some o ∧ Carries o.parts below ∧ Carries ds rest ∧
      sites = (markSites o.mark ++ below) ++ rest := by
  cases h with
  | @made mark parts _ below rest hparts hrest =>
      exact ⟨⟨mark, parts⟩, below, rest, rfl, hparts, hrest, rfl⟩
  | @source t _ rest h ht hrest =>
      obtain ⟨hunwrap, hsignificant, hsites⟩ := h.unwrap ht
      have hexpand := Draft.expand_source file (Concrete.isSkipped_of_isSignificant ht)
      have houtline :
          Carries [.made (t.unwrap.outline file).mark (t.unwrap.outline file).parts]
            t.unwrap.keptSites :=
        hunwrap.carries_outline hsignificant
      -- the indices have to be variables before `houtline` can be inverted
      generalize t.keptSites = kept at hsites ⊢
      rw [hsites] at houtline
      cases houtline with
      | @made _ _ _ below none hparts hnone =>
          cases hnone
          exact ⟨t.unwrap.outline file, below, rest, hexpand, hparts, hrest,
            by rw [List.append_nil]⟩

/-- The run: the nodes that drafts become have the sites that the drafts carry. -/
theorem flatMap_callSites_of_convert {file : Text} {ds : List Draft} {sites : List CallSite}
    {ns : List (Node Unit)} (h : Carries ds sites) (hns : Draft.convert file ds = .ok ns) :
    ns.flatMap callSites = sites := by
  fun_induction Draft.convert file ds generalizing sites ns with
  | case1 =>
      cases h
      obtain rfl := Except.ok.inj hns
      rfl
  | case2 d ds hd ih =>
      obtain ⟨o, -, -, ho, -⟩ := h.uncons file
      rw [hd] at ho
      cases ho
  | case3 d ds o hd ihparts ihrest =>
      obtain ⟨o', below, rest, ho, hparts, hrest, rfl⟩ := h.uncons file
      obtain rfl := Option.some.inj (hd.symm.trans ho)
      obtain ⟨mark, hmark, hns⟩ := bind_eq_ok_iff.mp hns
      obtain ⟨children, hchildren, hns⟩ := bind_eq_ok_iff.mp hns
      obtain ⟨others, hothers, hns⟩ := bind_eq_ok_iff.mp hns
      obtain rfl := Except.ok.inj hns
      rw [List.flatMap_cons, ihrest hrest hothers, callSites, Tree.collect_node, hmark]
      rw [← ihparts hparts hchildren]
      rfl

/-- What the conversion keeps are the sites outside the decorators of methods. -/
theorem callSites_of_ofConcrete {file : Text} {t : Concrete} {n : Node Unit}
    (hroot : t.label.isSignificant = true) (hgrammar : t.Grammatical)
    (hn : ofConcrete file t = .ok (some n)) : callSites n = t.keptSites := by
  have hsites := flatMap_callSites_of_convert (.single hgrammar hroot) (ofConcrete_eq_ok_iff.mp hn)
  rw [List.flatMap_singleton] at hsites
  exact hsites

/-- A tree of the grammar is converted, if its texts are UTF-8, to a tree that has the call sites
outside the decorators of methods.  These are all call sites exactly if the decorators of methods
hold none. -/
theorem callSites_ofConcrete_eq_iff (file : Text) (t : Concrete)
    (hroot : t.label.isSignificant = true) (hgrammar : t.Grammatical) :
    (t.Legible → ∃ n, ofConcrete file t = .ok (some n)) ∧
      ∀ n, ofConcrete file t = .ok (some n) →
        callSites n = t.undecorated.callSites ∧
          (callSites n = t.callSites ↔ t.QuietDecorators) := by
  constructor
  · intro hlegible
    have hskipped := Concrete.isSkipped_of_isSignificant hroot
    obtain ⟨n, hn, -⟩ := exists_ofConcrete_eq_ok file hskipped ⟨hgrammar.complete, hlegible⟩
    exact ⟨n, hn⟩
  · intro n hn
    have hsites := callSites_of_ofConcrete hroot hgrammar hn
    refine ⟨hsites, ?_⟩
    rw [hsites]
    exact Concrete.keptSites_eq_callSites_iff t

end Node

namespace Concrete

/-- The tree of `class A { … m() { … } }`, where decorators stand before the method and statements
in its body. -/
def decoratedClass (decorators statements : List Concrete) : Concrete :=
  branch .program none [
    branch (.other "class_declaration") none [
      token none "class", word .identifier (some .name) "A",
      branch .classBody (some .body) [
        token none "\x7b",
        branch .methodDefinition (some (.other "member")) (decorators ++ [
          word .propertyIdentifier (some .name) "m",
          branch .formalParameters (some .parameters) [token none "(", token none ")"],
          branch .statementBlock (some .body)
            ([token none "\x7b"] ++ statements ++ [token none "\x7d"])]),
        token none "\x7d"]]]

def plainDecorator : Concrete :=
  branch (.other "decorator") (some (.other "decorator"))
    [token none "@", word .identifier none "dec"]

def callingDecorator : Concrete :=
  branch (.other "decorator") (some (.other "decorator")) [
    token none "@",
    branch .callExpression none [
      word .identifier (some .function) "dec",
      branch .arguments (some .arguments) [token none "(", token none ")"]]]

/-- The tree of the statement `(f)(new B)`. -/
def nestedCalls : Concrete :=
  branch .expressionStatement none [
    branch .callExpression none [
      branch .parenthesizedExpression (some .function)
        [token none "(", word .identifier none "f", token none ")"],
      branch .arguments (some .arguments) [
        token none "(",
        branch .newExpression none [token none "new", word .identifier (some .constructor) "B"],
        token none ")"]]]

end Concrete

namespace Node

theorem callSites_ofConcrete_eq_iff_decoratedClass :
    ∃ n, ofConcrete "a.js" (Concrete.decoratedClass [Concrete.plainDecorator]
      [Concrete.nestedCalls]) = .ok (some n) ∧
      callSites n = (Concrete.decoratedClass [Concrete.plainDecorator]
        [Concrete.nestedCalls]).callSites ∧
      callSites n = [⟨.call, 1⟩, ⟨.new, 1⟩] := by
  obtain ⟨hbuilt, hsites⟩ := callSites_ofConcrete_eq_iff "a.js"
    (Concrete.decoratedClass [Concrete.plainDecorator] [Concrete.nestedCalls]) (by decide)
      (by decide +kernel)
  obtain ⟨n, hn⟩ := hbuilt (Concrete.legible_of_ascii (by decide +kernel))
  have hall := (hsites n hn).2.mpr (by decide +kernel)
  refine ⟨n, hn, hall, ?_⟩
  rw [hall]
  decide +kernel

/-- The call in `class A { @dec() m() {} }` is lost. -/
theorem callSites_lost_with_decorator :
    (Concrete.decoratedClass [Concrete.callingDecorator] []).Grammatical ∧
      (Concrete.decoratedClass [Concrete.callingDecorator] []).callSites = [⟨.call, 1⟩] ∧
      ∃ n, ofConcrete "t.js" (Concrete.decoratedClass [Concrete.callingDecorator] []) =
        .ok (some n) ∧
        callSites n = [] := by
  have hgrammar : (Concrete.decoratedClass [Concrete.callingDecorator] []).Grammatical := by
    decide +kernel
  have hlegible : (Concrete.decoratedClass [Concrete.callingDecorator] []).Legible :=
    Concrete.legible_of_ascii (by decide +kernel)
  obtain ⟨n, hn, -⟩ := exists_ofConcrete_eq_ok "t.js" (by decide) ⟨hgrammar.complete, hlegible⟩
  refine ⟨hgrammar, by decide +kernel, n, hn, ?_⟩
  rw [callSites_of_ofConcrete (by decide) hgrammar hn]
  decide +kernel

end Node

end CallAudit
