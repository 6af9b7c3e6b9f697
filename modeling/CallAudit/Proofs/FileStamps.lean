import CallAudit.Proofs.Conversion
import CallAudit.Proofs.Shape

/-!
# Nodes and the files they come from

The conversion stamps every node it makes with the name of the file, whatever kind of node it comes
from.  The calls that are read off a tree are reported at nodes of that tree, and so they are
reported in that file.
-/

namespace CallAudit

namespace Node

/-- Drafts of nodes that name a given file, as far as they have a mark. -/
inductive Draft.Stamped (file : Text) : Draft → Prop
  | source (t : Concrete) : Stamped file (.source t)
  | made {mark : Except DecodeFault (Mark Unit)} {parts : List Draft}
      (hmark : Yields mark fun m ↦ m.file = file) (hparts : ∀ d ∈ parts, Stamped file d) :
      Stamped file (.made mark parts)

end Node

namespace Concrete

open Node (Draft)
open Node.Draft (Stamped)

variable (file : Text) (t : Concrete)

theorem yields_markText (k : Node.Kind) (s : Except DecodeFault Text) :
    Yields (t.markText file k s) fun m ↦ m.file = file :=
  Yields.map fun _ _ ↦ rfl

theorem stamped_sources (ts : List Concrete) : ∀ d ∈ ts.map Draft.source, Stamped file d := by
  intro d hd
  obtain ⟨c, -, rfl⟩ := List.mem_map.mp hd
  exact .source c

theorem stamped_fieldPart (f : Field) : ∀ d ∈ t.fieldPart f, Stamped file d :=
  stamped_sources file _

theorem stamped_namedParts : ∀ d ∈ t.namedParts, Stamped file d := stamped_sources file _

theorem stamped_fieldParts (f g : Field) : ∀ d ∈ t.fieldPart f ++ t.fieldPart g, Stamped file d :=
  List.forall_mem_append.mpr ⟨t.stamped_fieldPart file f, t.stamped_fieldPart file g⟩

theorem stamped_argumentParts : ∀ d ∈ t.argumentParts, Stamped file d := by
  unfold argumentParts
  split
  · simp
  · next args _ =>
    split
    · exact args.stamped_namedParts file
    · exact stamped_sources file [args]

theorem stamped_properties (ts : List Concrete) :
    ∀ d ∈ ts.map fun p ↦ Draft.made (p.markText file .string p.text) [], Stamped file d := by
  intro d hd
  obtain ⟨p, -, rfl⟩ := List.mem_map.mp hd
  exact .made (p.yields_markText file .string p.text) (by simp)

theorem stamped_declarator : Stamped file (t.declarator file) := by
  unfold declarator
  split
  · split
    · next name _ =>
        exact .made (name.yields_markText file .name name.text) (t.stamped_fieldPart file .value)
    · exact .made (.ok rfl) (t.stamped_fieldParts file .name .value)
  · exact .source t

theorem stamped_parameterPart : Stamped file (t.parameterPart file) := by
  unfold parameterPart
  split
  · exact .made (.ok rfl) (by simp)
  · next params _ =>
    refine .made (.ok rfl) ?_
    split
    · exact params.stamped_namedParts file
    · exact stamped_sources file [params]

theorem stamped_functionParts (name : Except DecodeFault Text) :
    ∀ d ∈ t.functionParts file name, Stamped file d := by
  intro d hd
  rcases List.mem_cons.mp hd with rfl | hd
  · exact .made (t.yields_markText file .name name) (by simp)
  · rcases List.mem_cons.mp hd with rfl | hd
    · exact t.stamped_parameterPart file
    · exact t.stamped_fieldPart file .body d hd

/-- The step: what a concrete node is drafted as is stamped, for every kind of node. -/
theorem stamped_outline : Stamped file (.made (t.outline file).mark (t.outline file).parts) := by
  cases hkind : t.kind with
  | identifier | shorthandPropertyIdentifierPattern | propertyIdentifier | privatePropertyIdentifier
  | string =>
      simp only [outline, hkind]
      exact .made (t.yields_markText file _ _) (by simp)
  | number =>
      simp only [outline, hkind]
      cases t.text.map NumericLiteral.value? with
      | error fault => exact .made (.error fault) (by simp)
      | ok x? =>
          cases x? with
          | none => exact .made (.ok rfl) (t.stamped_namedParts file)
          | some x => exact .made (.ok rfl) (by simp)
  | callExpression | newExpression =>
      simp only [outline, hkind]
      exact .made (.ok rfl) (List.forall_mem_append.mpr
        ⟨t.stamped_fieldPart file _, t.stamped_argumentParts file⟩)
  | memberExpression =>
      simp only [outline, hkind]
      exact .made (.ok rfl) (List.forall_mem_append.mpr
        ⟨t.stamped_fieldPart file _, stamped_properties file _⟩)
  | subscriptExpression | assignmentExpression =>
      simp only [outline, hkind]
      exact .made (.ok rfl) (t.stamped_fieldParts file _ _)
  | binaryExpression =>
      simp only [outline, hkind]
      refine .made (.ok ?_) (t.stamped_fieldParts file _ _)
      split <;> rfl
  | augmentedAssignmentExpression =>
      simp only [outline, hkind]
      refine .made (.ok ?_) (t.stamped_fieldParts file _ _)
      split <;> rfl
  | variableDeclaration | lexicalDeclaration =>
      simp only [outline, hkind]
      refine .made (.ok rfl) ?_
      intro d hd
      obtain ⟨c, -, rfl⟩ := List.mem_map.mp hd
      exact c.stamped_declarator file
  | functionDeclaration | functionExpression | function | generatorFunctionDeclaration
  | generatorFunction | arrowFunction =>
      simp only [outline, hkind]
      exact .made (.ok rfl) (t.stamped_functionParts file _)
  | methodDefinition =>
      simp only [outline, hkind]
      have hfunction :
          ∀ d ∈ [Draft.made (.ok (t.mark file .function)) (t.functionParts file (.ok []))],
          Stamped file d :=
        List.forall_mem_singleton.mpr (.made (.ok rfl) (t.stamped_functionParts file _))
      split
      · exact .made (t.yields_markText file _ _) hfunction
      · exact .made (.ok rfl) (List.forall_mem_append.mpr
          ⟨t.stamped_fieldPart file .name, hfunction⟩)
  | pair =>
      simp only [outline, hkind]
      split
      · exact .made (t.yields_markText file _ _) (t.stamped_fieldPart file .value)
      · exact .made (.ok rfl) (t.stamped_fieldParts file .key .value)
  | shorthandPropertyIdentifier =>
      simp only [outline, hkind]
      refine .made (t.yields_markText file _ _) ?_
      exact List.forall_mem_singleton.mpr (.made (t.yields_markText file _ _) (by simp))
  | _ =>
      simp only [outline, hkind]
      exact .made (.ok rfl) (t.stamped_namedParts file)

end Concrete

namespace Node

open Draft (Stamped)

variable {file : Text}

theorem Draft.Stamped.expand {d : Draft} (h : d.Stamped file) {o : Outline}
    (ho : d.expand file = some o) :
    Stamped file (.made o.mark o.parts) := by
  cases h with
  | source t =>
      rw [Draft.expand] at ho
      split at ho
      · cases ho
      · obtain rfl := Option.some.inj ho
        exact t.unwrap.stamped_outline file
  | made hmark hparts =>
      obtain rfl := Option.some.inj ho
      exact .made hmark hparts

def FromFile {ι : Type} (file : Text) (n : Node ι) : Prop := n.Everywhere fun m _ ↦ m.file = file

/-- The run: the nodes that stamped drafts become come from the file, and so do all nodes below
them. -/
theorem fromFile_of_convert {ds : List Draft} (h : ∀ d ∈ ds, d.Stamped file) {ns : List (Node Unit)}
    (hns : Draft.convert file ds = .ok ns) : ∀ n ∈ ns, FromFile file n := by
  fun_induction Draft.convert file ds generalizing ns with
  | case1 =>
      obtain rfl := Except.ok.inj hns
      simp
  | case2 d ds hd ih => exact ih (fun e he ↦ h e (List.mem_cons_of_mem d he)) hns
  | case3 d ds o hd ihparts ihrest =>
      obtain ⟨mark, hmark, hns⟩ := bind_eq_ok_iff.mp hns
      obtain ⟨children, hchildren, hns⟩ := bind_eq_ok_iff.mp hns
      obtain ⟨rest, hrest, hns⟩ := bind_eq_ok_iff.mp hns
      obtain rfl := Except.ok.inj hns
      -- a draft that was not made yet is made now, and its parts are stamped by the step
      have hstamped := (h d List.mem_cons_self).expand hd
      cases hstamped with
      | made hfile hparts =>
          intro n hn
          rcases List.mem_cons.mp hn with rfl | hn
          · exact Tree.everywhere_node.mpr ⟨hfile mark hmark, ihparts hparts hchildren⟩
          · exact ihrest (fun e he ↦ h e (List.mem_cons_of_mem d he)) hrest n hn

/-- Every node of a converted tree names the file that it was converted for. -/
theorem fromFile_of_ofConcrete {t : Concrete} {n : Node Unit}
    (hn : ofConcrete file t = .ok (some n)) :
    n.FromFile file := by
  apply fromFile_of_convert (Concrete.stamped_sources file [t]) (ofConcrete_eq_ok_iff.mp hn)
  exact List.mem_singleton_self n

/-! ### Where calls are reported -/

section

variable {ι : Type}

abbrev ReportedIn (file : Text) (ts : List (Target ι)) : Prop := ∀ t ∈ ts, t.site.file = file

theorem reportedIn_targetsAt {m : Mark ι} (hm : m.file = file) (names : List Text) :
    ReportedIn file (targetsAt m names) := by
  intro t ht
  obtain ⟨name, -, rfl⟩ := List.mem_map.mp ht
  exact hm

mutual

theorem yields_accessTargets :
    ∀ {n : Node ι}, n.FromFile file → Yields (accessTargets n) (ReportedIn file)
  | .node m children, h => by
      unfold accessTargets
      split
      · next object property hkind =>
        have hobject (own : List Text) : Yields (if kind object = .getProp then do
              let below ← chainTargets [object, property]
              pure (targetsAt m own ++ below)
            else do
              let names ← objectNames object property
              pure (targetsAt m (own ++ names))) (ReportedIn file) := by
          split
          · refine .bind (yields_chainTargets fun c hc ↦ h.of_mem_children hc) fun below hbelow ↦ ?_
            exact .ok (List.forall_mem_append.mpr ⟨reportedIn_targetsAt h.at_root own, hbelow⟩)
          · exact .of_bind fun names ↦ .ok (reportedIn_targetsAt h.at_root _)
        dsimp only
        split
        · exact .of_bind fun s ↦ hobject [s]
        · exact hobject []
      · exact .error _

theorem yields_chainTargets : ∀ {ns : List (Node ι)}, (∀ n ∈ ns, FromFile file n) →
    Yields (chainTargets ns) (ReportedIn file)
  | [], _ => .ok (List.forall_mem_nil _)
  | access :: siblings, h => by
      obtain ⟨haccess, hsiblings⟩ := List.forall_mem_cons.mp h
      rw [chainTargets]
      refine .bind (yields_accessTargets haccess) fun own hown ↦ ?_
      split
      · refine .bind (yields_chainTargets hsiblings) fun more hmore ↦ ?_
        exact .ok (List.forall_mem_append.mpr ⟨hown, hmore⟩)
      · exact .ok (List.forall_mem_append.mpr ⟨hown, List.forall_mem_nil _⟩)

end

/-- The targets of a call are reported at nodes of its own tree, so in the same file. -/
theorem yields_callTargets {p : Place (Mark ι)} (h : FromFile file p.tree)
    (hkind : kind p.tree = .call ∨ kind p.tree = .new) :
    Yields (callTargets p) (ReportedIn file) := by
  obtain ⟨⟨m, children⟩, following, ancestors⟩ := p
  cases children with
  | nil =>
      unfold callTargets
      rcases hkind with hk | hk <;> simp only [hk] <;> exact .error _
  | cons callee arguments =>
      have hcallee : FromFile file callee := h.of_mem_children List.mem_cons_self
      rw [callTargets_eq hkind rfl, calleeTargets]
      split
      · exact yields_chainTargets fun c hc ↦ h.of_mem_children hc
      · exact .of_bind fun s ↦ .ok (reportedIn_targetsAt hcallee.at_root _)
      · exact .of_bind fun key? ↦ .ok (reportedIn_targetsAt h.at_root _)
      · exact .ok (List.forall_mem_nil _)

theorem yields_assignmentTargets {n : Node ι} (h : n.FromFile file) :
    Yields (assignmentTargets n) (ReportedIn file) := by
  unfold assignmentTargets
  split
  · split
    · exact .of_bind fun values ↦ .of_bind fun keys ↦ .ok (reportedIn_targetsAt h.at_root _)
    · exact .ok (List.forall_mem_nil _)
  · exact .error _

end

end Node

namespace Run

open Node (FromFile Mark)

variable {ι : Type} {file : Text}

def Finding.CallsIn (file : Text) (f : Finding ι) : Prop := ∀ call ∈ f.calls, call.site.file = file

theorem Finding.callsIn_of_calls_eq_nil {f : Finding ι} (h : f.calls = []) : f.CallsIn file := by
  intro call hcall
  rw [h] at hcall
  cases hcall

theorem Finding.callsIn_ofTargets {ts : List (Node.Target ι)} (h : Node.ReportedIn file ts) :
    (ofTargets ts).CallsIn file := by
  intro call hcall
  obtain ⟨t, ht, rfl⟩ := List.mem_map.mp hcall
  exact h t ht

theorem yields_finding {q : Place (Mark ι)} (h : FromFile file q.tree) :
    Yields (finding q) (Finding.CallsIn file) := by
  cases hkind : Node.kind q.tree with
  | call | new =>
      simp only [finding, hkind]
      refine .mapError _ (.map fun ts hts ↦ Finding.callsIn_ofTargets ?_)
      exact Node.yields_callTargets h (by simp [hkind]) ts hts
  | assign operator =>
      simp only [finding, hkind]
      refine .mapError _ (.map fun ts hts ↦ Finding.callsIn_ofTargets ?_)
      exact Node.yields_assignmentTargets h ts hts
  | var =>
      simp only [finding, hkind]
      refine .ok (Finding.callsIn_of_calls_eq_nil ?_)
      split <;> rfl
  | function =>
      simp only [finding, hkind]
      exact .map fun name? _ ↦ Finding.callsIn_of_calls_eq_nil rfl
  | _ =>
      simp only [finding, hkind]
      exact .ok (Finding.callsIn_of_calls_eq_nil rfl)

/-- What is read off the places of a file is reported in that file. -/
theorem yields_findings_below {n : Node ι} (h : n.FromFile file) :
    Yields ((Place.root n).below.mapM finding) fun fs ↦ (Finding.joined fs).CallsIn file := by
  have hall : Yields ((Place.root n).below.mapM finding) fun fs ↦ ∀ f ∈ fs, f.CallsIn file := by
    refine .mapM fun q hq ↦ yields_finding ?_
    exact h.of_mem_subtrees (Tree.mem_subtrees_of_mem_descendants (Place.tree_mem_descendants hq))
  intro fs hfs call hcall
  obtain ⟨f, hf, hcall⟩ := List.mem_flatMap.mp hcall
  exact hall fs hfs f hf call hcall

end Run

end CallAudit
