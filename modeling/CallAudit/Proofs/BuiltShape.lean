import CallAudit.Proofs.Conversion
import CallAudit.Proofs.Shape

/-!
# Built trees are well-shaped

The conversion keeps the promises that the kinds of analysed nodes make, as long as the concrete
nodes of five kinds hold the children that their analysed nodes are made of.  Of all other concrete
nodes nothing is asked: absent fields vanish, and the shape that is left is one that the resolver
copes with.
-/

namespace CallAudit

theorem Utf8.succeeds_decode_of_ascii {bytes : List UInt8} (h : ∀ b ∈ bytes, b.toNat < 0x80) :
    Succeeds (decode bytes) := by
  suffices hfrom : ∀ position, Succeeds (decodeFrom position bytes) from hfrom 0
  induction bytes with
  | nil =>
      intro position
      rw [decodeFrom]
      exact Succeeds.ok []
  | cons b rest ih =>
      intro position
      have hb : b.toNat < 0x80 := h b List.mem_cons_self
      have hlt : b.toNat < 0x110000 := by omega
      have hread : read b rest = .point ⟨b.toNat, hlt⟩ 0 := by
        simp [read, hb, readMore, CodePoint.ofNat?, hlt]
      rw [decodeFrom, hread]
      exact (ih (fun c hc ↦ h c (List.mem_cons_of_mem b hc)) _).map _

namespace Concrete

/-- The fields without which a node of a kind, with a given operator, cannot be analysed. -/
def requiredFields (kind : Kind) (operator : String) : List Field :=
  match kind with
  | .callExpression => [.function]
  | .newExpression => [.constructor]
  | .memberExpression => [.object, .property]
  | .subscriptExpression => [.object, .index]
  | .binaryExpression => if operator = "+" then [.left, .right] else []
  | _ => []

namespace Mark

def inField? (below : List Mark) (f : Field) : Option Mark := below.find? fun c ↦ c.field? == some f

/-- Whether the required fields of a node hold children, none of them of a skipped kind. -/
def isComplete (m : Mark) (below : List Mark) : Bool :=
  let operator := (inField? below .operator).elim "" fun o ↦ o.kind.name
  (requiredFields m.kind operator).all fun f ↦ (inField? below f).any fun c ↦ !c.kind.isSkipped

end Mark

def Complete (t : Concrete) : Prop := t.Everywhere fun m below ↦ m.isComplete below = true

instance (t : Concrete) : Decidable t.Complete :=
  inferInstanceAs (Decidable (t.Everywhere fun m below ↦ m.isComplete below = true))

def Legible (t : Concrete) : Prop := ∀ s ∈ t.subtrees, Succeeds (text s)

theorem legible_of_ascii {t : Concrete} (h : ∀ s ∈ t.subtrees, ∀ b ∈ s.label.text, b.toNat < 0x80) :
    t.Legible :=
  fun s hs ↦ Utf8.succeeds_decode_of_ascii (h s hs)

structure Orderly (t : Concrete) : Prop where
  complete : t.Complete
  legible : t.Legible

namespace Orderly

variable {t : Concrete}

theorem of_mem_subtrees (h : t.Orderly) {s : Concrete} (hs : s ∈ t.subtrees) : Orderly s :=
  ⟨Tree.Everywhere.of_mem_subtrees h.complete hs,
    fun r hr ↦ h.legible r (Tree.mem_subtrees_trans hr hs)⟩

theorem of_mem_children (h : t.Orderly) {c : Concrete} (hc : c ∈ t.children) : Orderly c :=
  h.of_mem_subtrees (Tree.mem_subtrees_of_mem_children hc)

theorem unwrap (h : t.Orderly) : t.unwrap.Orderly := h.of_mem_subtrees (unwrap_mem_subtrees t)

theorem succeeds_text (h : t.Orderly) : Succeeds t.text := h.legible t (Tree.mem_subtrees_self t)

end Orderly

theorem inField?_map_label (t : Concrete) (f : Field) :
    Mark.inField? (t.children.map Tree.label) f = (t.child? f).map Tree.label := by
  rw [Mark.inField?, List.find?_map]
  rfl

/-- A required field holds a child that is not skipped. -/
theorem Orderly.exists_child? {t : Concrete} (h : t.Orderly) {f : Field}
    (hf : f ∈ requiredFields t.kind t.operator) :
    ∃ c, t.child? f = some c ∧ c.kind.isSkipped = false := by
  have hcomplete := Tree.Everywhere.at_root h.complete
  simp only [Mark.isComplete, inField?_map_label, Option.elim_map, List.all_eq_true] at hcomplete
  have hchild := hcomplete f hf
  cases hc : t.child? f with
  | none => simp [hc] at hchild
  | some c => exact ⟨c, rfl, by simpa [kind, hc] using hchild⟩

end Concrete

namespace Node

/-- The shape of a node with a given mark over given parts: whatever marks the parts turn out to
have, the node has the shape of its kind. -/
def FitsParts (file : Text) (m : Mark Unit) (parts : List Draft) : Prop :=
  ∀ marks, (Draft.outlines file parts).map Outline.mark = marks.map .ok → m.fits marks = true

/-- A draft that becomes a well-shaped node: a concrete tree that can be converted, or a mark with
parts that give it the shape of its kind. -/
inductive Draft.Sound (file : Text) : Draft → Prop
  | source {t : Concrete} (h : t.Orderly) : Sound file (.source t)
  | made {m : Mark Unit} {parts : List Draft} (hparts : ∀ d ∈ parts, Sound file d)
      (hfits : FitsParts file m parts) :
      Sound file (.made (.ok m) parts)

namespace Draft

@[simp] theorem outlines_nil (file : Text) : outlines file [] = [] := rfl

theorem outlines_append (file : Text) (ds es : List Draft) :
    outlines file (ds ++ es) = outlines file ds ++ outlines file es := List.filterMap_append

@[simp] theorem outlines_made_cons (file : Text) (mark : Except DecodeFault (Mark Unit))
    (parts ds : List Draft) :
    outlines file (.made mark parts :: ds) = ⟨mark, parts⟩ :: outlines file ds := rfl

namespace Sound

variable {file : Text}

/-- Marks that fit whatever is below them. -/
theorem ofFree {m : Mark Unit} {parts : List Draft} (hfits : ∀ marks, m.fits marks = true)
    (hparts : ∀ d ∈ parts, Sound file d) : Sound file (.made (.ok m) parts) :=
  .made hparts fun marks _ ↦ hfits marks

/-- Names, strings and keys fit as soon as they have a text. -/
theorem ofText (t : Concrete) {k : Kind} {s : Except DecodeFault Text} {parts : List Draft}
    (hk : k = .name ∨ k = .string ∨ k = .stringKey) (hs : Succeeds s)
    (hparts : ∀ d ∈ parts, Sound file d) :
    Sound file (.made (t.markText file k s) parts) := by
  obtain ⟨text, rfl⟩ := hs
  refine ofFree (fun marks ↦ ?_) hparts
  rcases hk with rfl | rfl | rfl <;> rfl

end Sound

end Draft

end Node

namespace Concrete

open Node (Draft FitsParts)
open Node.Draft (Sound outlines outlines_append outlines_made_cons)

variable {file : Text} {t : Concrete}

/-- A required field is present and not skipped, so that its part has exactly one outline. -/
theorem outlines_fieldPart {c : Concrete} {f : Field} (h : t.child? f = some c)
    (hc : c.kind.isSkipped = false) :
    outlines file (t.fieldPart f) = [c.unwrap.outline file] := by
  simp [outlines, fieldPart, h, Draft.expand_source file hc]

namespace Orderly

theorem sound_namedParts (h : t.Orderly) : ∀ d ∈ t.namedParts, Sound file d := by
  intro d hd
  obtain ⟨c, hc, rfl⟩ := List.mem_map.mp hd
  exact .source (h.of_mem_children (mem_named.mp hc).1)

theorem sound_fieldPart (h : t.Orderly) (f : Field) : ∀ d ∈ t.fieldPart f, Sound file d := by
  intro d hd
  obtain ⟨c, hc, rfl⟩ := List.mem_map.mp hd
  exact .source (h.of_mem_children (mem_children_of_child? (Option.mem_toList.mp hc)))

theorem sound_fieldParts (h : t.Orderly) (f g : Field) :
    ∀ d ∈ t.fieldPart f ++ t.fieldPart g, Sound file d :=
  List.forall_mem_append.mpr ⟨h.sound_fieldPart f, h.sound_fieldPart g⟩

theorem sound_argumentParts (h : t.Orderly) : ∀ d ∈ t.argumentParts, Sound file d := by
  unfold argumentParts
  split
  · simp
  · next args hargs =>
    have horderly := h.of_mem_children (mem_children_of_child? hargs)
    split
    · exact horderly.sound_namedParts
    · simpa using Sound.source horderly

theorem succeeds_keyText? (h : t.Orderly) {f : Field} {key : Except DecodeFault Text}
    (hkey : (t.child? f).bind keyText? = some key) : Succeeds key := by
  obtain ⟨c, hc, hkey⟩ := Option.bind_eq_some_iff.mp hkey
  have htext := (h.of_mem_children (mem_children_of_child? hc)).succeeds_text
  unfold keyText? at hkey
  split at hkey
  case h_5 =>
    obtain rfl := Option.some.inj hkey
    exact htext.map _
  case h_6 => simp at hkey
  all_goals
    obtain rfl := Option.some.inj hkey
    exact htext

theorem sound_declarator (h : t.Orderly) : Sound file (t.declarator file) := by
  unfold declarator
  split
  · split
    · next name hname =>
      have hmem := mem_children_of_child? (Option.eq_some_of_filter_eq_some hname)
      exact .ofText name (.inl rfl) (h.of_mem_children hmem).succeeds_text
        (h.sound_fieldPart .value)
    · exact .ofFree (fun _ ↦ rfl) (h.sound_fieldParts .name .value)
  · exact .source h

theorem sound_parameterPart (h : t.Orderly) : Sound file (t.parameterPart file) := by
  unfold parameterPart
  split
  · exact .ofFree (fun _ ↦ rfl) (by simp)
  · next params hparams =>
    have hmem : params ∈ t.children := by
      rcases Option.or_eq_some_iff.mp hparams with hp | ⟨_, hp⟩
      · exact mem_children_of_child? hp
      · exact mem_children_of_child? hp
    refine .ofFree (fun _ ↦ rfl) ?_
    split
    · exact (h.of_mem_children hmem).sound_namedParts
    · simpa using Sound.source (h.of_mem_children hmem)

/-- A function begins with its name. -/
theorem sound_function (h : t.Orderly) {name : Except DecodeFault Text} (hname : Succeeds name) :
    Sound file (.made (.ok (t.mark file .function)) (t.functionParts file name)) := by
  have hfirst : Sound file (.made (t.markText file .name name) []) :=
    .ofText t (.inl rfl) hname (by simp)
  refine .made ?_ ?_
  · intro d hd
    rcases List.mem_cons.mp hd with rfl | hd
    · exact hfirst
    · rcases List.mem_cons.mp hd with rfl | hd
      · exact h.sound_parameterPart
      · exact h.sound_fieldPart .body d hd
  · intro marks hmarks
    obtain ⟨s, rfl⟩ := hname
    cases marks with
    | nil => simp [functionParts] at hmarks
    | cons m marks =>
        have hm : t.markWith file .name s = m := by
          simpa [functionParts, markText, Except.map] using (List.cons.inj hmarks).1
        subst hm
        rfl

/-- Two fields that hold a child each make two nodes. -/
theorem fitsParts_pair (h : t.Orderly) {f g : Field} {m : Node.Mark Unit}
    (hf : f ∈ requiredFields t.kind t.operator) (hg : g ∈ requiredFields t.kind t.operator)
    (hfits : ∀ marks, marks.length = 2 → m.fits marks = true) :
    FitsParts file m (t.fieldPart f ++ t.fieldPart g) := by
  obtain ⟨c, hc, hcs⟩ := h.exists_child? hf
  obtain ⟨d, hd, hds⟩ := h.exists_child? hg
  intro marks hmarks
  refine hfits marks ?_
  rw [outlines_append, outlines_fieldPart hc hcs, outlines_fieldPart hd hds] at hmarks
  simpa using (congrArg List.length hmarks).symm

/-- A field that holds a child makes the first node. -/
theorem fitsParts_first (h : t.Orderly) {f : Field} {parts : List Draft} {m : Node.Mark Unit}
    (hf : f ∈ requiredFields t.kind t.operator)
    (hfits : ∀ marks, marks ≠ [] → m.fits marks = true) :
    FitsParts file m (t.fieldPart f ++ parts) := by
  obtain ⟨c, hc, hcs⟩ := h.exists_child? hf
  intro marks hmarks
  refine hfits marks ?_
  rintro rfl
  rw [outlines_append, outlines_fieldPart hc hcs] at hmarks
  simp at hmarks

/-- The object may be any node; the property becomes a string, whatever it was. -/
theorem sound_memberExpression (h : t.Orderly) (hkind : t.kind = .memberExpression) :
    Sound file (.made (.ok (t.mark file .getProp)) (t.fieldPart .object ++
      (t.child? .property).toList.map fun p ↦ .made (p.markText file .string p.text) [])) := by
  obtain ⟨object, hobject, hskipped⟩ :=
    h.exists_child? (f := .object) (by simp [hkind, requiredFields])
  obtain ⟨property, hproperty, -⟩ :=
    h.exists_child? (f := .property) (by simp [hkind, requiredFields])
  have htext := (h.of_mem_children (mem_children_of_child? hproperty)).succeeds_text
  refine .made (List.forall_mem_append.mpr ⟨h.sound_fieldPart .object, ?_⟩) ?_
  · simpa [hproperty] using Sound.ofText property (.inr (.inl rfl)) htext (by simp)
  · intro marks hmarks
    obtain ⟨s, hs⟩ := htext
    rw [outlines_append, outlines_fieldPart hobject hskipped, hproperty] at hmarks
    obtain ⟨first, last, rfl⟩ : ∃ first last, marks = [first, last] := by
      refine List.length_eq_two.mp ?_
      simpa using (congrArg List.length hmarks).symm
    have hlast : property.markWith file .string s = last := by
      simpa [markText, hs, Except.map] using (List.cons.inj (List.cons.inj hmarks).2).1
    subst hlast
    rfl

/-- The step: what an orderly node is drafted as has the shape of its kind. -/
theorem sound_outline (h : t.Orderly) :
    Sound file (.made (t.outline file).mark (t.outline file).parts) := by
  cases hkind : t.kind with
  | program | statementBlock | classBody | expressionStatement | templateString | object =>
      simp only [outline, hkind]
      exact .ofFree (fun _ ↦ rfl) h.sound_namedParts
  | identifier | shorthandPropertyIdentifierPattern =>
      simp only [outline, hkind]
      exact .ofText t (.inl rfl) h.succeeds_text (by simp)
  | propertyIdentifier | privatePropertyIdentifier =>
      simp only [outline, hkind]
      exact .ofText t (.inr (.inl rfl)) h.succeeds_text (by simp)
  | string =>
      simp only [outline, hkind]
      exact .ofText t (.inr (.inl rfl)) (h.succeeds_text.map _) (by simp)
  | number =>
      obtain ⟨s, hs⟩ := h.succeeds_text
      simp only [outline, hkind, hs, Except.map]
      cases NumericLiteral.value? s with
      | none => exact .ofFree (fun _ ↦ rfl) h.sound_namedParts
      | some x => exact .ofFree (fun _ ↦ rfl) (by simp)
  | callExpression | newExpression =>
      simp only [outline, hkind]
      refine .made (List.forall_mem_append.mpr ⟨h.sound_fieldPart _, h.sound_argumentParts⟩) ?_
      exact h.fitsParts_first (by simp [hkind, requiredFields])
        fun marks hmarks ↦ by cases marks <;> simp_all [mark, Node.Mark.fits]
  | memberExpression =>
      simp only [outline, hkind]
      exact h.sound_memberExpression hkind
  | subscriptExpression =>
      simp only [outline, hkind]
      refine .made (h.sound_fieldParts .object .index) ?_
      exact h.fitsParts_pair (by simp [hkind, requiredFields])
        (by simp [hkind, requiredFields]) fun marks hmarks ↦ by simp [mark, Node.Mark.fits, hmarks]
  | binaryExpression =>
      simp only [outline, hkind]
      by_cases hplus : t.operator = "+"
      · -- the only operator whose node has a shape to keep
        rw [if_pos hplus]
        refine .made (h.sound_fieldParts .left .right) ?_
        exact h.fitsParts_pair (by simp [hkind, hplus, requiredFields])
          (by simp [hkind, hplus, requiredFields])
          fun marks hmarks ↦ by simp [mark, Node.Mark.fits, hmarks]
      · rw [if_neg hplus]
        exact .ofFree (fun _ ↦ rfl) (h.sound_fieldParts .left .right)
  | assignmentExpression =>
      simp only [outline, hkind]
      exact .ofFree (fun _ ↦ rfl) (h.sound_fieldParts .left .right)
  | augmentedAssignmentExpression =>
      simp only [outline, hkind]
      split <;> exact .ofFree (fun _ ↦ rfl) (h.sound_fieldParts .left .right)
  | variableDeclaration | lexicalDeclaration =>
      simp only [outline, hkind]
      refine .ofFree (fun _ ↦ rfl) fun d hd ↦ ?_
      obtain ⟨c, hc, rfl⟩ := List.mem_map.mp hd
      exact (h.of_mem_children (mem_named.mp hc).1).sound_declarator
  | functionDeclaration | functionExpression | function | generatorFunctionDeclaration
  | generatorFunction | arrowFunction =>
      simp only [outline, hkind]
      refine h.sound_function ?_
      cases hname : t.child? .name with
      | none => exact Succeeds.ok []
      | some name => exact (h.of_mem_children (mem_children_of_child? hname)).succeeds_text
  | methodDefinition =>
      simp only [outline, hkind]
      have hfunction :
          Sound file (.made (.ok (t.mark file .function)) (t.functionParts file (.ok []))) :=
        h.sound_function (Succeeds.ok [])
      split
      · next key hkey =>
        exact .ofText t (.inr (.inr rfl)) (h.succeeds_keyText? hkey) (by simpa using hfunction)
      · refine .ofFree (fun _ ↦ rfl) (List.forall_mem_append.mpr ⟨h.sound_fieldPart .name, ?_⟩)
        simpa using hfunction
  | pair =>
      simp only [outline, hkind]
      split
      · next key hkey =>
        exact .ofText t (.inr (.inr rfl)) (h.succeeds_keyText? hkey) (h.sound_fieldPart .value)
      · exact .ofFree (fun _ ↦ rfl) (h.sound_fieldParts .key .value)
  | shorthandPropertyIdentifier =>
      simp only [outline, hkind]
      refine .ofText t (.inr (.inr rfl)) h.succeeds_text ?_
      simpa using Sound.ofText t (.inl rfl) h.succeeds_text (by simp)
  | _ =>
      simp only [outline, hkind]
      exact .ofFree (fun _ ↦ rfl) h.sound_namedParts

end Orderly

end Concrete

namespace Node

theorem Draft.Sound.expand {file : Text} {d : Draft} (h : d.Sound file) {o : Outline}
    (ho : d.expand file = some o) :
    Sound file (.made o.mark o.parts) := by
  cases h with
  | source h =>
      unfold Draft.expand at ho
      split at ho
      · next heq => simp at heq
      · next t heq =>
        obtain rfl := Draft.source.inj heq
        split at ho
        · simp at ho
        · obtain rfl := Option.some.inj ho
          exact h.unwrap.sound_outline
  | made hparts hfits =>
      obtain rfl := Option.some.inj ho
      exact .made hparts hfits

/-- The run: sound drafts are converted, and the nodes that they become are well-shaped. -/
theorem exists_convert_eq_ok {file : Text} {ds : List Draft} (h : ∀ d ∈ ds, d.Sound file) :
    ∃ ns, Draft.convert file ds = .ok ns ∧ ∀ n ∈ ns, WellShaped n := by
  fun_induction Draft.convert file ds with
  | case1 => exact ⟨[], rfl, by simp⟩
  | case2 d ds hd ih => exact ih fun e he ↦ h e (List.mem_cons_of_mem d he)
  | case3 d ds o hd ihparts ihrest =>
      obtain ⟨rest, hrest, hshaped⟩ := ihrest fun e he ↦ h e (List.mem_cons_of_mem d he)
      have hsound := (h d List.mem_cons_self).expand hd
      generalize hmark : o.mark = mark at hsound
      cases hsound with
      | @made m _ hparts hfits =>
          obtain ⟨cs, hcs, hbelow⟩ := ihparts hparts
          refine ⟨.node m cs :: rest, by simp [hcs, hrest], ?_⟩
          intro n hn
          rcases List.mem_cons.mp hn with rfl | hn
          · exact Tree.everywhere_node.mpr ⟨hfits _ (map_mark_outlines hcs), hbelow⟩
          · exact hshaped n hn

/-- A tree that can be converted is converted, to a tree whose nodes have the shapes of their
kinds. -/
theorem exists_ofConcrete_eq_ok (file : Text) {t : Concrete} (hroot : t.kind.isSkipped = false)
    (h : t.Orderly) :
    ∃ n, ofConcrete file t = .ok (some n) ∧ WellShaped n := by
  have hsound : ∀ d ∈ [Draft.source t], d.Sound file := by simpa using Draft.Sound.source h
  obtain ⟨ns, hns, hshaped⟩ := exists_convert_eq_ok hsound
  obtain ⟨n, rfl⟩ : ∃ n, ns = [n] := by
    have houtlines : Draft.outlines file [.source t] = [t.unwrap.outline file] := by
      rw [Draft.outlines, List.filterMap_cons, Draft.expand_source file hroot, List.filterMap_nil]
    have hlength := congrArg List.length (map_mark_outlines hns)
    simp only [houtlines, List.length_map, List.length_singleton] at hlength
    exact List.length_eq_one_iff.mp hlength.symm
  exact ⟨n, ofConcrete_eq_ok_iff.mpr hns, hshaped n List.mem_cons_self⟩

/-- A tree in which the five kinds have their fields, and whose texts are UTF-8, is converted, and
the walk of the result finishes for every set of forbidden names, with and without deduplication. -/
theorem ofConcrete_and_walk_succeed (file : Text) (t : Concrete) (hroot : t.kind.isSkipped = false)
    (hcomplete : t.Complete) (hlegible : t.Legible) :
    ∃ n, ofConcrete file t = .ok (some n) ∧
      ∀ (forbidden : Forbidden) (dedupe : Bool), ∃ r, (Run.start forbidden dedupe).walk (.root n) =
        .ok r := by
  obtain ⟨n, hn, hshaped⟩ := exists_ofConcrete_eq_ok file hroot ⟨hcomplete, hlegible⟩
  refine ⟨n, hn, fun forbidden dedupe ↦ ?_⟩
  have hfindings : ∀ q ∈ (Place.root n).below, Succeeds (Run.finding q) :=
    fun q hq ↦ Run.succeeds_finding_of_mem_below hshaped hq
  obtain ⟨fs, -, hwalk⟩ := Run.exists_walk_eq_ok (Run.start forbidden dedupe) hfindings
  exact ⟨_, hwalk⟩

end Node

namespace Concrete

/-! ### Trees written out -/

def ascii (s : String) : List UInt8 := s.toList.map fun c ↦ UInt8.ofNat c.toNat

def branch (kind : Kind) (field? : Option Field) (children : List Concrete) : Concrete :=
  .node ⟨kind, field?, true, false, false, [], 0, 0⟩ children

def word (kind : Kind) (field? : Option Field) (s : String) : Concrete :=
  .node ⟨kind, field?, true, false, false, ascii s, 0, 0⟩ []

def token (field? : Option Field) (s : String) : Concrete :=
  .node ⟨.ofName s, field?, false, false, false, ascii s, 0, 0⟩ []

/-- The tree of `o.run = …; (o['r' + 'un'])()`, with a function that lacks its parameters and its
body. -/
def dispatchScript : Concrete :=
  branch .program none [
    branch .expressionStatement none [
      branch .assignmentExpression none [
        branch .memberExpression (some .left) [
          word .identifier (some .object) "o", word .propertyIdentifier (some .property) "run"],
        branch .arrowFunction (some .right) []]],
    branch .expressionStatement none [
      branch .callExpression none [
        branch .parenthesizedExpression (some .function) [
          branch .subscriptExpression none [
            word .identifier (some .object) "o",
            branch .binaryExpression (some .index) [
              word .string (some .left) "'r'", token (some .operator) "+",
              word .string (some .right) "'un'"]]]]]]

end Concrete

namespace Node

theorem ofConcrete_and_walk_succeed_dispatchScript :
    ∃ n, ofConcrete "a.js" Concrete.dispatchScript = .ok (some n) ∧
      ∀ (forbidden : Forbidden) (dedupe : Bool), ∃ r, (Run.start forbidden dedupe).walk (.root n) =
        .ok r := by
  have hlegible : Concrete.dispatchScript.Legible := Concrete.legible_of_ascii (by decide +kernel)
  exact ofConcrete_and_walk_succeed "a.js" Concrete.dispatchScript (by decide) (by decide) hlegible

end Node

end CallAudit
