import CallAudit.Proofs.BuiltShape
import Mathlib.Data.List.Find

/-!
# Trees of the grammar

What the rules of the grammar say about the nodes of a tree, as far as the conversion relies on it:
which fields the parts of a node are in, and which nodes hold nothing but text.  The decorators of a
method stand beside the parts of its rule, and the conversion does not ask for them.
-/

namespace CallAudit

namespace Concrete

def Kind.isText : Kind → Bool
  | .identifier | .propertyIdentifier | .privatePropertyIdentifier | .shorthandPropertyIdentifier
  | .shorthandPropertyIdentifierPattern | .string | .number => true
  | .other name => ["string_fragment", "escape_sequence", "html_character_reference"].contains name
  | _ => false

def Kind.isOperation : Kind → Bool
  | .callExpression | .newExpression | .memberExpression | .subscriptExpression
  | .binaryExpression => true
  | _ => false

/-- The fields that the parts of a node are in, one list for each form of its rule; none for the
rules that put their parts in no such fields. -/
def layouts : Kind → List (List Field)
  | .callExpression => [[.function, .arguments]]
  | .newExpression => [[.constructor, .arguments], [.constructor]]
  | .memberExpression => [[.object, .property]]
  | .subscriptExpression => [[.object, .index]]
  | .binaryExpression | .assignmentExpression | .augmentedAssignmentExpression => [[.left, .right]]
  | .variableDeclarator => [[.name, .value], [.name]]
  | .functionDeclaration | .functionExpression | .function | .generatorFunctionDeclaration
  | .generatorFunction | .arrowFunction | .methodDefinition =>
      [[.name, .parameters, .body], [.parameters, .body], [.parameter, .body]]
  | .pair => [[.key, .value]]
  | _ => []

/-- The fields of a kind that hold a bare name.  The names of methods may be computed. -/
def nameFields : Kind → List Field
  | .memberExpression => [.property]
  | .functionDeclaration | .functionExpression | .function | .generatorFunctionDeclaration
  | .generatorFunction | .arrowFunction => [.name]
  | _ => []

namespace Mark

def isSignificant (m : Mark) : Bool := m.named && !m.kind.isSkipped

def isPlain (m : Mark) : Bool := !m.isSignificant || m.kind.isText

def isDecoratedBy (m c : Mark) : Bool := m.kind == .methodDefinition && c.kind == .other "decorator"

/-- Whether `c` below `m` is one of the parts that the rule of `m` puts in fields. -/
def holds (m c : Mark) : Bool := c.isSignificant && !m.isDecoratedBy c

/-- What the rule of a node asks of the nodes below it. -/
structure Follows (m : Mark) (below : List Mark) : Prop where
  plain : m.isPlain = true → m.kind.isOperation = false ∧ ∀ c ∈ below, c.isPlain = true
  layout : m.isSignificant = true → layouts m.kind ≠ [] →
    (∃ fs ∈ layouts m.kind, (below.filter m.holds).map field? = fs.map some) ∧
      ∀ c ∈ below, m.holds c = false → ∀ f ∈ (layouts m.kind).flatten, c.field? ≠ some f
  names : ∀ c ∈ below, ∀ f ∈ nameFields m.kind, c.field? = some f → c.kind.isText = true

instance (m : Mark) (below : List Mark) : Decidable (m.Follows below) :=
  decidable_of_iff
    ((m.isPlain = true → m.kind.isOperation = false ∧ ∀ c ∈ below, c.isPlain = true) ∧
      (m.isSignificant = true → layouts m.kind ≠ [] →
        (∃ fs ∈ layouts m.kind, (below.filter m.holds).map field? = fs.map some) ∧
          ∀ c ∈ below, m.holds c = false → ∀ f ∈ (layouts m.kind).flatten, c.field? ≠ some f) ∧
      ∀ c ∈ below, ∀ f ∈ nameFields m.kind, c.field? = some f → c.kind.isText = true)
    ⟨fun ⟨hplain, hlayout, hnames⟩ ↦ ⟨hplain, hlayout, hnames⟩,
      fun h ↦ ⟨h.plain, h.layout, h.names⟩⟩

end Mark

def Grammatical (t : Concrete) : Prop := t.Everywhere Mark.Follows

instance (t : Concrete) : Decidable t.Grammatical :=
  inferInstanceAs (Decidable (t.Everywhere Mark.Follows))

def ruleParts (t : Concrete) : List Concrete := t.children.filter fun c ↦ t.label.holds c.label

theorem mem_ruleParts {t c : Concrete} :
    c ∈ t.ruleParts ↔ c ∈ t.children ∧ t.label.holds c.label = true :=
  List.mem_filter

theorem isSignificant_of_mem_ruleParts {t c : Concrete} (hc : c ∈ t.ruleParts) :
    c.label.isSignificant = true := by
  have hholds := (mem_ruleParts.mp hc).2
  rw [Mark.holds, Bool.and_eq_true] at hholds
  exact hholds.1

theorem isSkipped_of_isSignificant {t : Concrete} (ht : t.label.isSignificant = true) :
    t.kind.isSkipped = false := by
  rw [Mark.isSignificant, Bool.and_eq_true] at ht
  simpa [kind] using ht.2

theorem ruleParts_eq_named {t : Concrete} (hkind : t.kind ≠ .methodDefinition) :
    t.ruleParts = t.named := by
  have hdecorated : ∀ c : Concrete, t.label.isDecoratedBy c.label = false := by
    intro c
    have hne : (t.label.kind == .methodDefinition) = false := beq_eq_false_iff_ne.mpr hkind
    rw [Mark.isDecoratedBy, hne, Bool.false_and]
  refine List.filter_congr fun c _ ↦ ?_
  rw [Mark.holds, hdecorated, Bool.not_false, Bool.and_true]
  rfl

theorem nodup_of_mem_layouts {k : Kind} {fs : List Field} (h : fs ∈ layouts k) : fs.Nodup := by
  have hall : ∀ fs ∈ layouts k, fs.Nodup := by
    cases k with
    | other name => simp [layouts]
    | _ => decide
  exact hall fs h

theorem mem_of_mem_requiredFields {k : Kind} {operator : String} {f : Field} {fs : List Field}
    (hf : f ∈ requiredFields k operator) (hfs : fs ∈ layouts k) : f ∈ fs := by
  -- only the operator `+` makes the operands of a binary expression required
  have hsubset : requiredFields k operator ⊆ requiredFields k "+" := by
    cases k <;> simp only [requiredFields, List.Subset.refl]
    split <;> simp
  have hall : ∀ f ∈ requiredFields k "+", ∀ fs ∈ layouts k, f ∈ fs := by
    cases k with
    | other name => simp [layouts]
    | _ => decide
  exact hall f (hsubset hf) fs hfs

theorem isOperation_of_mem_requiredFields {k : Kind} {operator : String} {f : Field}
    (hf : f ∈ requiredFields k operator) : k.isOperation = true := by
  cases k <;> first | rfl | simp [requiredFields] at hf

/-- Nodes in distinct fields are found again by their fields. -/
theorem flatMap_find?_field {parts : List Concrete} {fs : List Field} (hnodup : fs.Nodup)
    (hfields : parts.map (·.label.field?) = fs.map some) :
    (fs.flatMap fun f ↦ (parts.find? fun c ↦ c.label.field? == some f).toList) = parts := by
  induction parts generalizing fs with
  | nil =>
      have hfs : fs = [] := by simpa using hfields.symm
      rw [hfs, List.flatMap_nil]
  | cons c parts ih =>
      cases fs with
      | nil => simp at hfields
      | cons f fs =>
          have hc : c.label.field? = some f := (List.cons.inj hfields).1
          have hrest := (List.cons.inj hfields).2
          obtain ⟨hf, hnodup⟩ := List.nodup_cons.mp hnodup
          have hne : ∀ g ∈ fs, (c.label.field? == some g) = false := by
            intro g hg
            rw [hc]
            exact beq_eq_false_iff_ne.mpr fun h ↦ hf (Option.some.inj h ▸ hg)
          have htail :
              (fs.flatMap fun g ↦ ((c :: parts).find? fun c ↦ c.label.field? == some g).toList) =
                parts := by
            rw [← ih hnodup hrest]
            refine List.flatMap_congr fun g hg ↦ ?_
            rw [List.find?_cons, hne g hg, ih hnodup hrest]
          rw [List.flatMap_cons, htail, List.find?_cons, hc, beq_self_eq_true]
          rfl

namespace Grammatical

variable {t : Concrete}

theorem of_mem_children (h : t.Grammatical) {c : Concrete} (hc : c ∈ t.children) : Grammatical c :=
  Tree.Everywhere.of_mem_children h hc

/-- The parts of a node are in the fields of one of the forms of its rule, and nothing else is in
these fields. -/
theorem layout (h : t.Grammatical) (ht : t.label.isSignificant = true)
    (hlayouts : layouts t.kind ≠ []) :
    (∃ fs ∈ layouts t.kind, t.ruleParts.map (·.label.field?) = fs.map some) ∧
      ∀ c ∈ t.children, t.label.holds c.label = false →
        ∀ f ∈ (layouts t.kind).flatten, c.label.field? ≠ some f := by
  obtain ⟨⟨fs, hfs, hfields⟩, hothers⟩ := (Tree.Everywhere.at_root h).layout ht hlayouts
  refine ⟨⟨fs, hfs, ?_⟩, fun c hc ↦ hothers c.label (List.mem_map_of_mem hc)⟩
  rw [List.filter_map, List.map_map] at hfields
  exact hfields

/-- A field can be looked up among the parts alone. -/
theorem child?_eq_find? (h : t.Grammatical) (ht : t.label.isSignificant = true) {f : Field}
    (hf : f ∈ (layouts t.kind).flatten) :
    t.child? f = t.ruleParts.find? fun c ↦ c.label.field? == some f := by
  have hlayouts : layouts t.kind ≠ [] := by
    intro hnil
    simp [hnil] at hf
  rw [ruleParts, List.find?_filter, child?]
  refine List.find?_congr fun c hc ↦ ?_
  -- a child that is no part, such as a comment, is in none of the fields
  cases hholds : t.label.holds c.label with
  | true => simp [beq_eq_decide]
  | false => simpa using (h.layout ht hlayouts).2 c hc hholds f hf

theorem mem_ruleParts_of_child? (h : t.Grammatical) (ht : t.label.isSignificant = true) {f : Field}
    {c : Concrete} (hf : f ∈ (layouts t.kind).flatten) (hc : t.child? f = some c) :
    c ∈ t.ruleParts := by
  rw [h.child?_eq_find? ht hf] at hc
  exact List.mem_of_find?_eq_some hc

/-- The parts of a node are what its fields hold, in the order of one of the forms of its rule. -/
theorem exists_layout (h : t.Grammatical) (ht : t.label.isSignificant = true)
    (hlayouts : layouts t.kind ≠ []) :
    ∃ fs ∈ layouts t.kind, t.ruleParts = (fs.flatMap fun f ↦ (t.child? f).toList) ∧
      ∀ f ∈ (layouts t.kind).flatten, f ∉ fs → t.child? f = none := by
  obtain ⟨⟨fs, hfs, hfields⟩, -⟩ := h.layout ht hlayouts
  refine ⟨fs, hfs, ?_, ?_⟩
  · rw [← flatMap_find?_field (nodup_of_mem_layouts hfs) hfields]
    refine List.flatMap_congr fun f hf ↦ ?_
    rw [h.child?_eq_find? ht (List.mem_flatten_of_mem hfs hf)]
  · intro f hf hnot
    rw [h.child?_eq_find? ht hf]
    refine List.find?_eq_none.mpr fun c hc hfield ↦ hnot ?_
    have hmem : c.label.field? ∈ fs.map some := by
      rw [← hfields]
      exact List.mem_map_of_mem hc
    rw [eq_of_beq hfield] at hmem
    simpa using hmem

theorem isSignificant_of_isOperation (h : t.Grammatical) (hkind : t.kind.isOperation = true) :
    t.label.isSignificant = true := by
  by_contra hnot
  have hplain : t.label.isPlain = true := by simp [Mark.isPlain, Bool.eq_false_iff.mpr hnot]
  have hfalse : t.kind.isOperation = false := ((Tree.Everywhere.at_root h).plain hplain).1
  rw [hkind] at hfalse
  cases hfalse

/-- The fields that the analysis cannot do without are in every form of the rule. -/
theorem exists_child? (h : t.Grammatical) {f : Field} {operator : String}
    (hf : f ∈ requiredFields t.kind operator) : ∃ c ∈ t.ruleParts, t.child? f = some c := by
  have hoperation := isOperation_of_mem_requiredFields hf
  have ht := h.isSignificant_of_isOperation hoperation
  have hlayouts : layouts t.kind ≠ [] := by
    intro hnil
    cases hkind : t.kind <;> simp_all [layouts, Kind.isOperation]
  obtain ⟨⟨fs, hfs, hfields⟩, -⟩ := h.layout ht hlayouts
  have hmem : f ∈ fs := mem_of_mem_requiredFields hf hfs
  have hflat : f ∈ (layouts t.kind).flatten := List.mem_flatten_of_mem hfs hmem
  cases hc : t.child? f with
  | some c => exact ⟨c, h.mem_ruleParts_of_child? ht hflat hc, rfl⟩
  | none =>
      have hsome : some f ∈ t.ruleParts.map (·.label.field?) := by
        rw [hfields]
        exact List.mem_map_of_mem hmem
      obtain ⟨c, hcmem, hcfield⟩ := List.mem_map.mp hsome
      rw [h.child?_eq_find? ht hflat] at hc
      exact absurd (beq_iff_eq.mpr hcfield) (List.find?_eq_none.mp hc c hcmem)

/-- Trees of the grammar have the fields without which they could not be analysed. -/
theorem complete (h : t.Grammatical) : t.Complete := by
  intro (s : Concrete) hs
  have hs : s.Grammatical := Tree.Everywhere.of_mem_subtrees h hs
  simp only [Mark.isComplete, inField?_map_label, Option.elim_map, List.all_eq_true]
  intro f hf
  obtain ⟨c, hmem, hc⟩ := hs.exists_child? hf
  have hskipped : c.label.kind.isSkipped = false :=
    isSkipped_of_isSignificant (isSignificant_of_mem_ruleParts hmem)
  rw [hc, Option.map_some, Option.any_some, hskipped, Bool.not_false]

end Grammatical

end Concrete

end CallAudit
