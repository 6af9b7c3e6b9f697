import CallAudit.Proofs.BuiltShape
import Mathlib.Logic.Relation

/-!
# Parentheses and comments

Parentheses around an expression and comments between the parts of a program leave its analysed tree
as it is.  Two trees that differ by one pair of parentheses or by one comment are compared node by
node: the changed children of a node stand for the unchanged ones wherever the draft of the node
looks at them.

A draft looks at some children before it looks through their parentheses: names, keys, operators,
argument lists, parameters and declarators.  Parentheses around those are not considered here.
-/

namespace CallAudit

namespace Concrete

def Kind.isComment : Kind → Bool
  | .comment | .htmlComment => true
  | _ => false

def Kind.isDeclaration : Kind → Bool
  | .variableDeclaration | .lexicalDeclaration => true
  | _ => false

def withField (t : Concrete) (field? : Option Field) : Concrete :=
  .node { t.label with field? } t.children

/-- Parentheses around a node: they take its field, and beside comments it is all that they hold.
The two kinds of nodes that are no comments but are skipped like comments cannot be put in
parentheses. -/
structure Parenthesizes (p c : Concrete) : Prop where
  kind : p.kind = .parenthesizedExpression
  named : p.label.named = true
  field : p.label.field? = c.label.field?
  content : ∃ field?, p.children.filter (fun d ↦ d.label.named && !(Concrete.kind d).isComment) =
    [c.withField field?]
  visible : c.kind ≠ .hashBangLine ∧ c.kind ≠ .optionalChain

/-- Whether a child is looked at through its parentheses, as far as the kind of the parent and the
mark of the child tell.  A declarator is looked into by the declaration that it directly belongs
to. -/
def Wrappable (inDeclaration : Bool) (parent : Kind) (c : Mark) : Prop :=
  match parent with
  | .callExpression => c.field? = some .function ∨ c.field? = some .arguments ∧ c.kind ≠ .arguments
  | .newExpression =>
      c.field? = some .constructor ∨ c.field? = some .arguments ∧ c.kind ≠ .arguments
  | .memberExpression => c.field? = some .object
  | .subscriptExpression => c.field? = some .object ∨ c.field? = some .index
  | .binaryExpression | .assignmentExpression | .augmentedAssignmentExpression =>
    c.field? = some .left ∨ c.field? = some .right
  | .variableDeclaration | .lexicalDeclaration => False
  | .variableDeclarator => inDeclaration = true → c.field? = some .value
  | .functionDeclaration | .functionExpression | .function | .generatorFunctionDeclaration
  | .generatorFunction | .arrowFunction | .methodDefinition => c.field? = some .body
  | .pair => c.field? = some .value
  | _ => True

/-- One pair of parentheses or one comment more, anywhere below the root.  A comment cannot come
before the keyword of a declaration. -/
inductive Embellished : Bool → Concrete → Concrete → Prop
  | wrap {inDeclaration : Bool} {m : Mark} {before after : List Concrete} {c p : Concrete}
      (hposition : Wrappable inDeclaration m.kind c.label) (hp : p.Parenthesizes c) :
      Embellished inDeclaration (.node m (before ++ c :: after)) (.node m (before ++ p :: after))
  | comment {inDeclaration : Bool} {m : Mark} {before after : List Concrete} {comment : Concrete}
      (hkind : comment.kind.isComment = true) (hfield : comment.label.field? = none)
      (hkeyword : m.kind.isDeclaration = true → before ≠ []) :
      Embellished inDeclaration (.node m (before ++ after)) (.node m (before ++ comment :: after))
  | inside {inDeclaration : Bool} {m : Mark} {before after : List Concrete} {c d : Concrete}
      (h : Embellished m.kind.isDeclaration c d) :
      Embellished inDeclaration (.node m (before ++ c :: after)) (.node m (before ++ d :: after))

end Concrete

namespace Node

namespace Draft

variable {file : Text}

theorem convert_append (file : Text) (ds es : List Draft) :
    convert file (ds ++ es) = (convert file ds).bind fun ns ↦ (convert file es).map (ns ++ ·) := by
  induction ds with
  | nil =>
      rw [convert_nil, List.nil_append]
      cases convert file es <;> rfl
  | cons d ds ih =>
      rw [List.cons_append]
      cases hd : d.expand file with
      | none => rw [convert_cons_of_none hd, convert_cons_of_none hd, ih]
      | some o =>
          rw [convert_cons_of_some hd, convert_cons_of_some hd, ih]
          cases o.mark with
          | error fault => rfl
          | ok mark =>
              cases convert file o.parts with
              | error fault => rfl
              | ok children =>
                  cases convert file ds with
                  | error fault => rfl
                  | ok ns => cases convert file es <;> rfl

def Same (file : Text) (ds es : List Draft) : Prop := convert file ds = convert file es

namespace Same

theorem refl (ds : List Draft) : Same file ds ds := rfl

theorem append {ds es ds' es' : List Draft} (h : Same file ds ds') (h' : Same file es es') :
    Same file (ds ++ es) (ds' ++ es') := by
  unfold Same at *
  rw [convert_append, convert_append, h, h']

theorem made {mark : Except DecodeFault (Mark Unit)} {ps qs : List Draft} (h : Same file ps qs) :
    Same file [.made mark ps] [.made mark qs] := by
  unfold Same at *
  rw [convert_cons_of_some (o := ⟨mark, ps⟩) rfl, convert_cons_of_some (o := ⟨mark, qs⟩) rfl, h]

/-- Parts below the same mark can be told apart by the node. -/
theorem of_made {mark : Mark Unit} {ps qs : List Draft}
    (h : Same file [.made (.ok mark) ps] [.made (.ok mark) qs]) :
    Same file ps qs := by
  unfold Same at *
  rw [convert_cons_of_some (o := ⟨.ok mark, ps⟩) rfl,
    convert_cons_of_some (o := ⟨.ok mark, qs⟩) rfl] at h
  revert h
  cases convert file ps <;> cases convert file qs <;> simp [Except.bind, Except.map]

theorem forall₂ {α : Type} {r : α → α → Prop} {draft : α → Draft}
    (hr : ∀ a b, r a b → Same file [draft a] [draft b]) {as bs : List α}
    (h : List.Forall₂ r as bs) : Same file (as.map draft) (bs.map draft) := by
  induction h with
  | nil => exact refl []
  | cons hab _ ih => exact append (hr _ _ hab) ih

end Same

/-- Parentheses and what they enclose become the same nodes. -/
theorem same_source_of_enclosed? {t c : Concrete} (h : t.enclosed? = some c) :
    Same file [.source t] [.source c] := by
  have hexpand : (source t).expand file = (source c).expand file := by
    rw [expand, expand, Concrete.unwrap_of_some h]
  unfold Same
  cases hc : (source c).expand file with
  | none => rw [convert_cons_of_none (hexpand.trans hc), convert_cons_of_none hc]
  | some o => rw [convert_cons_of_some (hexpand.trans hc), convert_cons_of_some hc]

theorem same_source_outline {t : Concrete} (h : t.enclosed? = none)
    (hskipped : t.kind.isSkipped = false) :
    Same file [.source t] [.made (t.outline file).mark (t.outline file).parts] := by
  have hexpand := expand_source file hskipped
  rw [Concrete.unwrap_of_none h] at hexpand
  unfold Same
  rw [convert_cons_of_some hexpand, convert_cons_of_some (o := t.outline file) rfl]

theorem same_source_nil {t : Concrete} (h : t.enclosed? = none)
    (hskipped : t.kind.isSkipped = true) :
    Same file [.source t] [] := by
  refine convert_cons_of_none ?_ []
  rw [expand, Concrete.unwrap_of_none h, if_pos hskipped]

theorem same_withField (t : Concrete) (field? : Option Concrete.Field) :
    Same file [.source (t.withField field?)] [.source t] := by
  obtain ⟨m, cs⟩ := t
  cases h : Concrete.enclosed? (.node m cs) with
  | some c =>
      have h' : Concrete.enclosed? (Concrete.withField (.node m cs) field?) = some c := h
      exact (same_source_of_enclosed? h').trans (same_source_of_enclosed? h).symm
  | none =>
      have h' : Concrete.enclosed? (Concrete.withField (.node m cs) field?) = none := h
      cases hskipped : Concrete.Kind.isSkipped m.kind with
      | true => exact (same_source_nil h' hskipped).trans (same_source_nil h hskipped).symm
      | false =>
          refine (same_source_outline h' hskipped).trans
            (Eq.trans ?_ (same_source_outline h hskipped).symm)
          rfl

end Draft

end Node

namespace Concrete

open Node (Draft)
open Node.Draft (Same)

variable {file : Text} {inDeclaration : Bool} {parent : Kind} {c d t u : Concrete}

/-! ### What only the mark of a node decides -/

section Label

variable (h : u.label = t.label)

include h

theorem kind_congr : u.kind = t.kind := congrArg Mark.kind h

theorem text_congr : u.text = t.text := by rw [text, text, h]

theorem mark_congr (k : Node.Kind) :
    u.mark file k = t.mark file k := by rw [mark, mark, line, line, h]

theorem markWith_congr (k : Node.Kind) (s : Text) : u.markWith file k s = t.markWith file k s := by
  rw [markWith, markWith, mark_congr h]

theorem markText_congr (k : Node.Kind) (s : Except DecodeFault Text) :
    u.markText file k s = t.markText file k s :=
  congrArg s.map (funext (markWith_congr h k))

theorem ruleMark_congr : u.ruleMark file = t.ruleMark file := by
  rw [ruleMark, ruleMark, mark_congr h, kind_congr h]

theorem keyText?_congr :
    u.keyText? = t.keyText? := by rw [keyText?, keyText?, kind_congr h, text_congr h]

end Label

/-! ### Changed children -/

/-- A node that is the same but for what is below it, and becomes the same. -/
structure Keeps (file : Text) (inDeclaration : Bool) (c d : Concrete) : Prop where
  label : d.label = c.label
  source : Same file [.source c] [.source d]
  declarator : inDeclaration = true → Same file [c.declarator file] [d.declarator file]

inductive Replaces (file : Text) (inDeclaration : Bool) (parent : Kind) (c d : Concrete) : Prop
  | keep (h : Keeps file parent.isDeclaration c d)
  | wrap (hposition : Wrappable inDeclaration parent c.label) (h : d.Parenthesizes c)

theorem not_wrappable_of_isDeclaration (hparent : parent.isDeclaration = true) {m : Mark} :
    ¬ Wrappable inDeclaration parent m := by
  revert hparent
  cases parent <;> simp [Kind.isDeclaration, Wrappable]

theorem Keeps.refl (c : Concrete) : Keeps file inDeclaration c c := ⟨rfl, rfl, fun _ ↦ rfl⟩

namespace Keeps

/-- The members of a list of arguments or parameters, which is not converted itself. -/
theorem same_members (h : Keeps file inDeclaration c d) {k : Kind}
    (hk : k = .arguments ∨ k = .formalParameters) :
    Same file (if c.kind = k then c.namedParts else [.source c])
      (if d.kind = k then d.namedParts else [.source d]) := by
  rw [kind_congr h.label]
  by_cases hkind : c.kind = k
  · rw [if_pos hkind, if_pos hkind]
    have houtline {e : Concrete} (he : e.kind = k) :
        Same file [.source e] [.made (.ok (e.ruleMark file)) e.namedParts] := by
      have henclosed : e.enclosed? = none :=
        enclosed?_of_ne (by rcases hk with rfl | rfl <;> simp [he])
      have hskipped : e.kind.isSkipped = false := by rcases hk with rfl | rfl <;> rw [he] <;> rfl
      have he' : Same file [.source e] _ := Draft.same_source_outline henclosed hskipped
      rcases hk with rfl | rfl <;> simpa only [outline, he] using he'
    have hd := houtline ((kind_congr h.label).trans hkind)
    rw [ruleMark_congr h.label] at hd
    exact Same.of_made (((houtline hkind).symm.trans h.source).trans hd)
  · rw [if_neg hkind, if_neg hkind]
    exact h.source

end Keeps

namespace Parenthesizes

theorem isNamed (h : d.Parenthesizes c) : c.label.named = true ∧ c.kind.isSkipped = false := by
  obtain ⟨field?, hcontent⟩ := h.content
  have hmem : c.withField field? ∈ d.children.filter fun x ↦ x.label.named &&
      !(Concrete.kind x).isComment := by
    rw [hcontent]
    exact List.mem_singleton_self _
  have hc := (List.mem_filter.mp hmem).2
  obtain ⟨hnamed, hcomment⟩ : c.label.named = true ∧ c.kind.isComment = false := by
    simpa [withField, Concrete.kind] using hc
  have hvisible := h.visible
  refine ⟨hnamed, ?_⟩
  revert hcomment hvisible
  cases c.kind <;> simp [Kind.isComment, Kind.isSkipped]

theorem enclosed? (h : d.Parenthesizes c) : ∃ field?, d.enclosed? = some (c.withField field?) := by
  obtain ⟨field?, hcontent⟩ := h.content
  have hskipped : (c.withField field?).kind.isSkipped = false := h.isNamed.2
  have hsplit : (fun x : Concrete ↦ x.label.named && !x.kind.isSkipped) =
      fun x ↦ !x.kind.isSkipped && (x.label.named && !x.kind.isComment) := by
    funext x
    cases x.label.named <;> cases x.kind <;> rfl
  have hnamed : d.named = [c.withField field?] := by
    rw [Concrete.named, hsplit, ← List.filter_filter, hcontent, List.filter_singleton, hskipped]
    rfl
  exact ⟨field?, by rw [Concrete.enclosed?, h.kind, hnamed]⟩

theorem same (h : d.Parenthesizes c) : Same file [.source c] [.source d] := by
  obtain ⟨field?, hd⟩ := h.enclosed?
  exact ((Draft.same_source_of_enclosed? hd).trans (Draft.same_withField c field?)).symm

end Parenthesizes

namespace Replaces

theorem same (h : Replaces file inDeclaration parent c d) : Same file [.source c] [.source d] := by
  cases h with
  | keep h => exact h.source
  | wrap _ h => exact h.same

theorem field (h : Replaces file inDeclaration parent c d) : d.label.field? = c.label.field? := by
  cases h with
  | keep h => rw [h.label]
  | wrap _ h => exact h.field

theorem isNamed (h : Replaces file inDeclaration parent c d) :
    (d.label.named && !d.kind.isSkipped) = (c.label.named && !c.kind.isSkipped) := by
  cases h with
  | keep h => rw [h.label, kind_congr h.label]
  | wrap _ h =>
      rw [h.named, h.kind, h.isNamed.1, h.isNamed.2]
      rfl

end Replaces

/-- Children that stand for others one by one, with comments between them. -/
inductive Aligned (r : Concrete → Concrete → Prop) : List Concrete → List Concrete → Prop
  | nil : Aligned r [] []
  | cons {c d : Concrete} {cs ds : List Concrete} (h : r c d) (hrest : Aligned r cs ds) :
      Aligned r (c :: cs) (d :: ds)
  | comment {comment : Concrete} {cs ds : List Concrete} (hkind : comment.kind.isComment = true)
      (hfield : comment.label.field? = none) (hrest : Aligned r cs ds) :
      Aligned r cs (comment :: ds)

namespace Aligned

variable {r : Concrete → Concrete → Prop} {cs ds : List Concrete}

theorem refl (hr : ∀ c, r c c) : ∀ cs, Aligned r cs cs
  | [] => .nil
  | c :: cs => .cons (hr c) (refl hr cs)

theorem append_left (hr : ∀ c, r c c) (before : List Concrete) (h : Aligned r cs ds) :
    Aligned r (before ++ cs) (before ++ ds) := by
  induction before with
  | nil => exact h
  | cons c before ih => exact .cons (hr c) ih

theorem find? (hr : ∀ c d, r c d → d.label.field? = c.label.field?) (f : Field)
    (h : Aligned r cs ds) :
    Option.Rel r (cs.find? fun c ↦ c.label.field? == some f)
      (ds.find? fun c ↦ c.label.field? == some f) := by
  induction h with
  | nil => exact .none
  | @cons c d cs ds hcd _ ih =>
      rw [List.find?_cons, List.find?_cons, hr c d hcd]
      cases c.label.field? == some f with
      | true => exact .some hcd
      | false => exact ih
  | comment _ hfield _ ih =>
      rw [List.find?_cons, hfield]
      exact ih

/-- Comments are not visible to a filter, so that the filtered children correspond one by one. -/
theorem filter {visible : Concrete → Bool} (hr : ∀ c d, r c d → visible d = visible c)
    (hcomment : ∀ c : Concrete, c.kind.isComment = true → visible c = false) (h : Aligned r cs ds) :
    List.Forall₂ r (cs.filter visible) (ds.filter visible) := by
  induction h with
  | nil => exact .nil
  | @cons c d cs ds hcd _ ih =>
      rw [List.filter_cons, List.filter_cons, hr c d hcd]
      split
      · exact .cons hcd ih
      · exact ih
  | comment hkind _ _ ih =>
      rw [List.filter_cons, hcomment _ hkind]
      exact ih

end Aligned

/-- A node with the same mark over children that stand for those of another one. -/
structure Varied (file : Text) (inDeclaration : Bool) (t u : Concrete) : Prop where
  label : u.label = t.label
  children : Aligned (Replaces file inDeclaration t.kind) t.children u.children
  keyword : t.kind.isDeclaration = true → u.children.head?.map Concrete.kind =
    t.children.head?.map Concrete.kind

namespace Varied

theorem named (h : Varied file inDeclaration t u) :
    List.Forall₂ (Replaces file inDeclaration t.kind) t.named u.named := by
  refine h.children.filter (fun c d hcd ↦ hcd.isNamed) fun c hc ↦ ?_
  revert hc
  cases c.kind <;> simp [Kind.isComment, Kind.isSkipped]

/-- The children that a field is read from. -/
theorem child? (h : Varied file inDeclaration t u) (f : Field) :
    (t.child? f = none ∧ u.child? f = none) ∨ ∃ c d, t.child? f = some c ∧ u.child? f = some d ∧
      c.label.field? = some f ∧ Replaces file inDeclaration t.kind c d := by
  have hrel : Option.Rel _ (t.child? f) (u.child? f) := h.children.find? (fun _ _ hcd ↦ hcd.field) f
  generalize ht : t.child? f = x at hrel ⊢
  generalize u.child? f = y at hrel ⊢
  cases hrel with
  | none => exact .inl ⟨rfl, rfl⟩
  | some hcd => exact .inr ⟨_, _, rfl, rfl, by simpa using List.find?_some ht, hcd⟩

/-- A field whose parentheses are not looked through is read from children with the same mark. -/
theorem keptChild? (h : Varied file inDeclaration t u) {f : Field}
    (hf : ∀ m : Mark, m.field? = some f → ¬ Wrappable inDeclaration t.kind m) :
    (t.child? f = none ∧ u.child? f = none) ∨ ∃ c d, t.child? f = some c ∧ u.child? f = some d ∧
      Keeps file t.kind.isDeclaration c d := by
  rcases h.child? f with hnone | ⟨c, d, hc, hd, hfield, hcd⟩
  · exact .inl hnone
  · cases hcd with
    | keep hkeep => exact .inr ⟨c, d, hc, hd, hkeep⟩
    | wrap hposition _ => exact absurd hposition (hf _ hfield)

theorem same_namedParts (h : Varied file inDeclaration t u) : Same file t.namedParts u.namedParts :=
  Same.forall₂ (fun _ _ hcd ↦ hcd.same) h.named

theorem same_fieldPart (h : Varied file inDeclaration t u) (f : Field) :
    Same file (t.fieldPart f) (u.fieldPart f) := by
  rw [fieldPart, fieldPart]
  rcases h.child? f with ⟨ht, hu⟩ | ⟨c, d, hc, hd, -, hcd⟩
  · rw [ht, hu]
    rfl
  · rw [hc, hd]
    exact hcd.same

theorem same_argumentParts (h : Varied file inDeclaration t u)
    (hkind : t.kind = .callExpression ∨ t.kind = .newExpression) :
    Same file t.argumentParts u.argumentParts := by
  rw [argumentParts, argumentParts]
  rcases h.child? .arguments with ⟨ht, hu⟩ | ⟨c, d, hc, hd, hfield, hcd⟩
  · rw [ht, hu]
    rfl
  · rw [hc, hd]
    cases hcd with
    | keep hkeep => exact hkeep.same_members (.inl rfl)
    | wrap hposition hp =>
        have hlist : c.kind ≠ .arguments := by
          change c.label.kind ≠ .arguments
          rcases hkind with hk | hk
          · simpa [Wrappable, hk, hfield] using hposition
          · simpa [Wrappable, hk, hfield] using hposition
        have hparentheses : d.kind ≠ .arguments := by simp [hp.kind]
        dsimp only
        rw [if_neg hlist, if_neg hparentheses]
        exact hp.same

theorem operator (h : Varied file inDeclaration t u)
    (hf : ∀ m : Mark, m.field? = some .operator → ¬ Wrappable inDeclaration t.kind m) :
    u.operator = t.operator := by
  rw [Concrete.operator, Concrete.operator]
  rcases h.keptChild? hf with ⟨ht, hu⟩ | ⟨c, d, hc, hd, hcd⟩
  · rw [ht, hu]
  · rw [hc, hd]
    exact congrArg Kind.name (kind_congr hcd.label)

theorem bind_keyText? (h : Varied file inDeclaration t u) {f : Field}
    (hf : ∀ m : Mark, m.field? = some f → ¬ Wrappable inDeclaration t.kind m) :
    (u.child? f).bind keyText? = (t.child? f).bind keyText? := by
  rcases h.keptChild? hf with ⟨ht, hu⟩ | ⟨c, d, hc, hd, hcd⟩
  · rw [ht, hu]
  · rw [hc, hd]
    exact keyText?_congr hcd.label

theorem same_parameterPart (h : Varied file inDeclaration t u)
    (hf : ∀ m : Mark, m.field? = some .parameters ∨ m.field? = some .parameter →
      ¬ Wrappable inDeclaration t.kind m) :
    Same file [t.parameterPart file] [u.parameterPart file] := by
  have hparameters : (t.parameters? = none ∧ u.parameters? = none) ∨ ∃ c d, t.parameters? = some c ∧
      u.parameters? = some d ∧ Keeps file t.kind.isDeclaration c d := by
    rw [parameters?, parameters?]
    rcases h.keptChild? fun m hm ↦ hf m (.inl hm) with ⟨ht, hu⟩ | ⟨c, d, hc, hd, hcd⟩
    · rw [ht, hu, Option.none_or, Option.none_or]
      exact h.keptChild? fun m hm ↦ hf m (.inr hm)
    · rw [hc, hd]
      exact .inr ⟨c, d, rfl, rfl, hcd⟩
  rw [parameterPart, parameterPart]
  rcases hparameters with ⟨ht, hu⟩ | ⟨c, d, hc, hd, hcd⟩
  · rw [ht, hu]
    dsimp only
    rw [mark_congr h.label]
    rfl
  · rw [hc, hd]
    dsimp only
    rw [mark_congr hcd.label]
    exact Same.made (hcd.same_members (.inr rfl))

theorem same_functionParts (h : Varied file inDeclaration t u)
    (hf : ∀ m : Mark, m.field? = some .parameters ∨ m.field? = some .parameter →
      ¬ Wrappable inDeclaration t.kind m)
    (name : Except DecodeFault Text) :
    Same file (t.functionParts file name) (u.functionParts file name) := by
  rw [functionParts, functionParts, markText_congr h.label]
  have hrest := (h.same_parameterPart hf).append (h.same_fieldPart .body)
  exact (Same.refl [.made (t.markText file .name name) []]).append hrest

theorem same_property (h : Varied file inDeclaration t u)
    (hf : ∀ m : Mark, m.field? = some .property → ¬ Wrappable inDeclaration t.kind m) :
    Same file ((t.child? .property).toList.map fun p ↦ .made (p.markText file .string p.text) [])
      ((u.child? .property).toList.map fun p ↦ .made (p.markText file .string p.text) []) := by
  rcases h.keptChild? hf with ⟨ht, hu⟩ | ⟨c, d, hc, hd, hcd⟩
  · rw [ht, hu]
    rfl
  · rw [hc, hd]
    simp only [Option.toList_some, List.map_cons, List.map_nil]
    rw [markText_congr hcd.label, text_congr hcd.label]
    rfl

theorem functionName (h : Varied file inDeclaration t u)
    (hf : ∀ m : Mark, m.field? = some .name → ¬ Wrappable inDeclaration t.kind m) :
    (u.child? .name).elim (.ok []) Concrete.text =
      (t.child? .name).elim (.ok []) Concrete.text := by
  rcases h.keptChild? hf with ⟨ht, hu⟩ | ⟨c, d, hc, hd, hcd⟩
  · rw [ht, hu]
  · rw [hc, hd]
    exact text_congr hcd.label

theorem same_declarators (h : Varied file inDeclaration t u) (hkind : t.kind.isDeclaration = true) :
    Same file (t.named.map (declarator file)) (u.named.map (declarator file)) := by
  refine Same.forall₂ ?_ h.named
  intro c d hcd
  cases hcd with
  | keep hkeep => exact hkeep.declarator hkind
  | wrap hposition _ => exact absurd hposition (not_wrappable_of_isDeclaration hkind)

theorem keyword_name (h : Varied file inDeclaration t u) (hkind : t.kind.isDeclaration = true) :
    (u.children.head?.elim "var" fun c ↦ (Concrete.kind c).name) =
      t.children.head?.elim "var" fun c ↦ (Concrete.kind c).name := by
  have hkeyword := h.keyword hkind
  revert hkeyword
  cases t.children.head? <;> cases u.children.head? <;> simp +contextual

/-- The step: a node whose children are changed is drafted over the same mark and over parts that
become the same. -/
theorem same_outline (h : Varied file inDeclaration t u) :
    Same file [.made (t.outline file).mark (t.outline file).parts]
      [.made (u.outline file).mark (u.outline file).parts] := by
  have hkind' := kind_congr h.label
  cases hkind : t.kind with
  | identifier | shorthandPropertyIdentifierPattern | propertyIdentifier | privatePropertyIdentifier
  | string | shorthandPropertyIdentifier =>
      rw [hkind] at hkind'
      simp only [outline, hkind, hkind', markText_congr h.label, text_congr h.label]
      rfl
  | number =>
      rw [hkind] at hkind'
      simp only [outline, hkind, hkind', text_congr h.label]
      cases t.text.map NumericLiteral.value? with
      | error fault => rfl
      | ok x? =>
          cases x? with
          | none =>
              dsimp only
              rw [ruleMark_congr h.label]
              exact Same.made h.same_namedParts
          | some x =>
              dsimp only
              rw [mark_congr h.label]
              rfl
  | callExpression | newExpression =>
      rw [hkind] at hkind'
      have harguments := h.same_argumentParts (by simp [hkind])
      simp only [outline, hkind, hkind', mark_congr h.label]
      exact Same.made ((h.same_fieldPart _).append harguments)
  | memberExpression =>
      rw [hkind] at hkind'
      have hproperty := h.same_property (by simp +contextual [hkind, Wrappable])
      simp only [outline, hkind, hkind', mark_congr h.label]
      exact Same.made ((h.same_fieldPart .object).append hproperty)
  | subscriptExpression | assignmentExpression =>
      rw [hkind] at hkind'
      simp only [outline, hkind, hkind', mark_congr h.label]
      exact Same.made ((h.same_fieldPart _).append (h.same_fieldPart _))
  | binaryExpression | augmentedAssignmentExpression =>
      rw [hkind] at hkind'
      have hoperator := h.operator (by simp +contextual [hkind, Wrappable])
      simp only [outline, hkind, hkind', hoperator, mark_congr h.label, ruleMark_congr h.label]
      exact Same.made ((h.same_fieldPart _).append (h.same_fieldPart _))
  | variableDeclaration | lexicalDeclaration =>
      rw [hkind] at hkind'
      have hdeclaration : t.kind.isDeclaration = true := by rw [hkind]; rfl
      simp only [outline, hkind, hkind', markWith_congr h.label, h.keyword_name hdeclaration]
      exact Same.made (h.same_declarators hdeclaration)
  | functionDeclaration | functionExpression | function | generatorFunctionDeclaration
  | generatorFunction | arrowFunction =>
      rw [hkind] at hkind'
      have hname := h.functionName (by simp +contextual [hkind, Wrappable])
      have hparts := h.same_functionParts (by simp +contextual [hkind, Wrappable, or_imp])
      simp only [outline, hkind, hkind', mark_congr h.label, hname]
      exact Same.made (hparts _)
  | methodDefinition =>
      rw [hkind] at hkind'
      have hkey := h.bind_keyText? (f := .name) (by simp +contextual [hkind, Wrappable])
      have hparts := h.same_functionParts (by simp +contextual [hkind, Wrappable, or_imp]) (.ok [])
      simp only [outline, hkind, hkind', mark_congr h.label, hkey]
      cases (t.child? .name).bind Concrete.keyText? with
      | some key =>
          dsimp only
          rw [markText_congr h.label]
          exact Same.made (Same.made hparts)
      | none =>
          dsimp only
          rw [ruleMark_congr h.label]
          exact Same.made ((h.same_fieldPart .name).append (Same.made hparts))
  | pair =>
      rw [hkind] at hkind'
      have hkey := h.bind_keyText? (f := .key) (by simp +contextual [hkind, Wrappable])
      simp only [outline, hkind, hkind', hkey]
      cases (t.child? .key).bind Concrete.keyText? with
      | some key =>
          dsimp only
          rw [markText_congr h.label]
          exact Same.made (h.same_fieldPart .value)
      | none =>
          dsimp only
          rw [ruleMark_congr h.label]
          exact Same.made ((h.same_fieldPart .key).append (h.same_fieldPart .value))
  | program | statementBlock | classBody | expressionStatement | templateString | object =>
      rw [hkind] at hkind'
      simp only [outline, hkind, hkind', mark_congr h.label]
      exact Same.made h.same_namedParts
  | _ =>
      rw [hkind] at hkind'
      simp only [outline, hkind, hkind', ruleMark_congr h.label]
      exact Same.made h.same_namedParts

theorem enclosed? (h : Varied file inDeclaration t u) :
    (t.enclosed? = none ∧ u.enclosed? = none) ∨ ∃ c d, t.enclosed? = some c ∧ u.enclosed? = some d ∧
      Replaces file inDeclaration t.kind c d := by
  by_cases hkind : t.kind = .parenthesizedExpression
  · have hnamed := h.named
    rw [Concrete.enclosed?, Concrete.enclosed?, kind_congr h.label, hkind]
    rw [hkind] at hnamed
    generalize t.named = cs at hnamed ⊢
    generalize u.named = ds at hnamed ⊢
    cases hnamed with
    | nil => exact .inl ⟨rfl, rfl⟩
    | cons hcd hrest =>
        cases hrest with
        | nil => exact .inr ⟨_, _, rfl, rfl, hcd⟩
        | cons _ _ => exact .inl ⟨rfl, rfl⟩
  · exact .inl ⟨enclosed?_of_ne hkind, enclosed?_of_ne ((kind_congr h.label).trans_ne hkind)⟩

/-- What holds of the outlines holds of the nodes, whether they are parentheses themselves or
not. -/
theorem same_source (h : Varied file inDeclaration t u) : Same file [.source t] [.source u] := by
  rcases h.enclosed? with ⟨ht, hu⟩ | ⟨c, d, hc, hd, hcd⟩
  · have hkind := kind_congr h.label
    cases hskipped : t.kind.isSkipped with
    | true =>
        exact (Draft.same_source_nil ht hskipped).trans
          (Draft.same_source_nil hu (hkind ▸ hskipped)).symm
    | false =>
        have houtline := (Draft.same_source_outline ht hskipped).trans h.same_outline
        exact houtline.trans (Draft.same_source_outline hu (hkind ▸ hskipped)).symm
  · have hsource := (Draft.same_source_of_enclosed? hc).trans hcd.same
    exact hsource.trans (Draft.same_source_of_enclosed? hd).symm

theorem same_declarator (h : Varied file true t u) :
    Same file [t.declarator file] [u.declarator file] := by
  rw [declarator, declarator, kind_congr h.label]
  by_cases hkind : t.kind = .variableDeclarator
  · rw [if_pos hkind, if_pos hkind]
    have hvalue := h.same_fieldPart .value
    rcases h.keptChild? (f := .name) (by simp +contextual [hkind, Wrappable])
      with ⟨ht, hu⟩ | ⟨c, d, hc, hd, hcd⟩
    · rw [ht, hu]
      dsimp only [Option.filter_none]
      rw [ruleMark_congr h.label]
      exact Same.made ((h.same_fieldPart .name).append hvalue)
    · rw [hc, hd, Option.filter_some, Option.filter_some, kind_congr hcd.label]
      by_cases hname : c.kind = .identifier
      · rw [if_pos (decide_eq_true hname), if_pos (decide_eq_true hname)]
        dsimp only
        rw [markText_congr hcd.label, text_congr hcd.label]
        exact Same.made hvalue
      · rw [if_neg (by simpa using hname), if_neg (by simpa using hname)]
        dsimp only
        rw [ruleMark_congr h.label]
        exact Same.made ((h.same_fieldPart .name).append hvalue)
  · rw [if_neg hkind, if_neg hkind]
    exact h.same_source

theorem keeps (h : Varied file inDeclaration t u) : Keeps file inDeclaration t u where
  label := h.label
  source := h.same_source
  declarator := by
    rintro rfl
    exact h.same_declarator

end Varied

theorem Replaces.refl (c : Concrete) : Replaces file inDeclaration parent c c := .keep (.refl c)

/-- The run: one change anywhere below a node keeps what the node becomes. -/
theorem Embellished.keeps (h : Embellished inDeclaration t u) : Keeps file inDeclaration t u := by
  induction h with
  | @wrap _ m before after c p hposition hp =>
      refine Varied.keeps ⟨rfl, ?_, ?_⟩
      · exact .append_left Replaces.refl before
          (.cons (.wrap hposition hp) (.refl Replaces.refl after))
      · intro hdeclaration
        exact absurd hposition (not_wrappable_of_isDeclaration hdeclaration)
  | @comment _ m before after comment hkind hfield hkeyword =>
      refine Varied.keeps ⟨rfl, ?_, ?_⟩
      · exact .append_left Replaces.refl before (.comment hkind hfield (.refl Replaces.refl after))
      · intro hdeclaration
        cases before with
        | nil => exact absurd rfl (hkeyword hdeclaration)
        | cons first before => rfl
  | @inside _ m before after c d _ ih =>
      refine Varied.keeps ⟨rfl, ?_, ?_⟩
      · exact .append_left Replaces.refl before (.cons (.keep ih) (.refl Replaces.refl after))
      · intro _
        cases before with
        | nil => exact congrArg some (kind_congr ih.label)
        | cons first before => rfl

end Concrete

namespace Node

open Concrete (Embellished)
open Relation (ReflTransGen)

/-- Any number of parentheses and comments leaves the analysed tree as it is. -/
theorem ofConcrete_eq_of_embellished (file : Text) {t u : Concrete}
    (h : ReflTransGen (Embellished false) t u) :
    ofConcrete file u = ofConcrete file t := by
  induction h with
  | refl => rfl
  | tail _ hstep ih =>
      have hsource : Draft.convert file _ = Draft.convert file _ := hstep.keeps.source
      rw [← ih, ofConcrete_eq, ofConcrete_eq, hsource]

/-- The tree of `eval()`. -/
def plainCall : Concrete :=
  .branch .program none [
    .branch .expressionStatement none [
      .branch .callExpression none [
        .word .identifier (some .function) "eval",
        .branch .arguments (some .arguments) []]]]

/-- The callee `(eval /* b */)`. -/
def embellishedCallee : Concrete :=
  .branch .parenthesizedExpression (some .function) [
    .token none "(",
    .word .identifier none "eval",
    .word .comment none "/* b */",
    .token none ")"]

/-- The tree of `/* a */ (eval /* b */)()`. -/
def embellishedCall : Concrete :=
  .branch .program none [
    .word .comment none "/* a */",
    .branch .expressionStatement none [
      .branch .callExpression none [
        embellishedCallee,
        .branch .arguments (some .arguments) []]]]

theorem ofConcrete_eq_of_embellished_plainCall :
    ReflTransGen (Embellished false) plainCall embellishedCall ∧
      ofConcrete "t.js" embellishedCall = ofConcrete "t.js" plainCall := by
  have hcallee : embellishedCallee.Parenthesizes (.word .identifier (some .function) "eval") :=
    ⟨rfl, rfl, rfl, ⟨none, rfl⟩, by decide⟩
  have hwrap : Embellished false plainCall _ :=
    @Embellished.inside _ _ [] _ _ _ (@Embellished.inside _ _ [] _ _ _
      (@Embellished.wrap _ _ [] _ _ _ (.inl rfl) hcallee))
  have hcomment : Embellished false _ embellishedCall :=
    @Embellished.comment _ _ [] _ (.word .comment none "/* a */") rfl rfl (by decide)
  have h : ReflTransGen (Embellished false) plainCall embellishedCall :=
    .tail (.single hwrap) hcomment
  exact ⟨h, ofConcrete_eq_of_embellished "t.js" h⟩

def hashBangLine : Concrete := .word .hashBangLine none "#!"

def parenthesizedLine : Concrete :=
  .branch .parenthesizedExpression none [.token none "(", hashBangLine, .token none ")"]

/-- A hash-bang line is no comment, but it is skipped like one.  Parentheses around it enclose
nothing. -/
theorem ofConcrete_parenthesizedLine :
    (parenthesizedLine.children.filter fun c ↦ c.label.named && !(Concrete.kind c).isComment) =
        [hashBangLine] ∧
      (ofConcrete "t.js" (.branch .program none [hashBangLine])).map
        (Option.map fun n ↦ n.children.map kind) =
        .ok (some []) ∧
      (ofConcrete "t.js" (.branch .program none [parenthesizedLine])).map
        (Option.map fun n ↦ n.children.map kind) =
        .ok (some [.other]) := by
  refine ⟨rfl, ?_, ?_⟩
  · decide +kernel
  · decide +kernel

end Node

end CallAudit
