import CallAudit.Audit.Batch
import CallAudit.Proofs.BuiltShape
import Mathlib.Data.List.Induction
import Mathlib.Data.List.Nodup

/-!
# What forbidden names and deduplication select

What is read off the files of a batch does not depend on the names that are forbidden, nor on
whether equal violations are dropped.  The violations are selected from the calls afterwards: those
of forbidden names, and with deduplication the first of equal ones.
-/

namespace CallAudit

section

variable {α : Type} [BEq α] [LawfulBEq α]

theorem eraseDups_concat (l : List α) (a : α) :
    (l ++ [a]).eraseDups = l.eraseDups ++ if a ∈ l then [] else [a] := by
  rw [List.eraseDups_append, List.removeAll]
  by_cases h : a ∈ l <;> simp [h, List.eraseDups_cons]

theorem nodup_eraseDups (l : List α) : l.eraseDups.Nodup := by
  induction l using List.reverseRecOn with
  | nil => exact List.nodup_nil
  | append_singleton l a ih =>
      rw [eraseDups_concat]
      by_cases ha : a ∈ l
      · simpa [ha] using ih
      · rw [if_neg ha, List.nodup_append]
        refine ⟨ih, List.nodup_singleton a, ?_⟩
        rintro b hb c hc rfl
        exact ha (List.mem_singleton.mp hc ▸ List.mem_eraseDups.mp hb)

theorem eraseDups_filter (p : α → Bool) (l : List α) :
    (l.filter p).eraseDups = l.eraseDups.filter p := by
  induction l using List.reverseRecOn with
  | nil => rfl
  | append_singleton l a ih =>
      rw [List.filter_append, eraseDups_concat, List.filter_append, ← ih]
      by_cases hp : p a = true
      · rw [List.filter_cons_of_pos hp, List.filter_nil, eraseDups_concat]
        by_cases ha : a ∈ l <;> simp [ha, hp]
      · rw [List.filter_cons_of_neg hp, List.filter_nil, List.append_nil]
        by_cases ha : a ∈ l <;> simp [ha, hp]

end

namespace Forbidden

def hits (forbidden : Forbidden) (calls : List Sighting) : List Sighting :=
  calls.filter fun call ↦ forbidden.contains call.name

/-- The violations among some calls; with `dedupe`, of equal ones only the first. -/
def violations (forbidden : Forbidden) (dedupe : Bool) (calls : List Sighting) : List Sighting :=
  if dedupe then (forbidden.hits calls).eraseDups else forbidden.hits calls

theorem mem_violations {forbidden : Forbidden} {dedupe : Bool} {calls : List Sighting}
    {v : Sighting} :
    v ∈ forbidden.violations dedupe calls ↔ v ∈ forbidden.hits calls := by
  cases dedupe with
  | false => rfl
  | true => exact List.mem_eraseDups

/-- A further call is a violation if its name is forbidden and, with deduplication, it is none
already. -/
theorem violations_concat (forbidden : Forbidden) (dedupe : Bool) (calls : List Sighting)
    (call : Sighting) :
    forbidden.violations dedupe (calls ++ [call]) = forbidden.violations dedupe calls ++
      if forbidden.contains call.name = true ∧
        (dedupe = true → call ∉ forbidden.violations dedupe calls) then [call]
      else [] := by
  have hhits : forbidden.hits (calls ++ [call]) =
      forbidden.hits calls ++ if forbidden.contains call.name = true then [call] else [] := by
    rw [hits, List.filter_append, List.filter_cons, List.filter_nil, ← hits]
  simp only [mem_violations]
  by_cases hcall : forbidden.contains call.name = true
  · rw [if_pos hcall] at hhits
    cases dedupe with
    | false => simp [violations, hhits, hcall]
    | true =>
        by_cases hmem : call ∈ forbidden.hits calls <;>
          simp [violations, hhits, hcall, eraseDups_concat, hmem]
  · rw [if_neg hcall, List.append_nil] at hhits
    simp [violations, hhits, hcall]

/-- Of the violations for a larger set of names, those for a smaller set are the ones with a name in
it. -/
theorem violations_eq_filter {forbidden wider : Forbidden}
    (h : ∀ name, forbidden.contains name = true → wider.contains name = true) (dedupe : Bool)
    (calls : List Sighting) :
    forbidden.violations dedupe calls =
      (wider.violations dedupe calls).filter fun v ↦ forbidden.contains v.name := by
  have hhits :
      forbidden.hits calls = (wider.hits calls).filter fun v ↦ forbidden.contains v.name := by
    rw [hits, hits, List.filter_filter]
    apply List.filter_congr
    intro call _
    cases hcall : forbidden.contains call.name with
    | false => rfl
    | true => rw [h call.name hcall]; rfl
  cases dedupe with
  | false => exact hhits
  | true => simp only [violations, if_true, hhits, eraseDups_filter]

end Forbidden

namespace Run

variable {ι : Type}

@[simp] theorem forbidden_registerAll (r : Run ι) (calls : List Sighting) :
    (r.registerAll calls).forbidden = r.forbidden := by
  induction calls generalizing r with
  | nil => rfl
  | cons call calls ih => exact ih (r.register call)

@[simp] theorem dedupe_registerAll (r : Run ι) (calls : List Sighting) :
    (r.registerAll calls).dedupe = r.dedupe := by
  induction calls generalizing r with
  | nil => rfl
  | cons call calls ih => exact ih (r.register call)

/-- The run remembers the violations on its list, if it has to. -/
def Remembers (r : Run ι) : Prop := r.dedupe = true → r.seen = r.violations

theorem Remembers.register {r : Run ι} (h : r.Remembers) (call : Sighting) :
    (r.register call).Remembers := by
  intro hdedupe
  have hr : r.dedupe = true := hdedupe
  simp only [Run.register, hr, if_true, h hr]

theorem Remembers.registerAll {r : Run ι} (h : r.Remembers) (calls : List Sighting) :
    (r.registerAll calls).Remembers := by
  induction calls generalizing r with
  | nil => exact h
  | cons call calls ih => exact ih (h.register call)

/-- A run that remembers its violations compares a call with all of them. -/
theorem toList_newViolation? {r : Run ι} (h : r.Remembers) (call : Sighting) :
    (r.newViolation? call).toList =
      if r.forbidden.contains call.name = true ∧ (r.dedupe = true → call ∉ r.violations) then [call]
      else [] := by
  unfold newViolation?
  cases hdedupe : r.dedupe with
  | false => cases r.forbidden.contains call.name <;> rfl
  | true =>
      rw [h hdedupe]
      cases r.forbidden.contains call.name <;> by_cases hmem : call ∈ r.violations <;> simp [hmem]

/-- The violations of a run from the start are selected from its calls. -/
theorem violations_start_registerAll (forbidden : Forbidden) (dedupe : Bool)
    (calls : List Sighting) :
    ((start forbidden dedupe : Run ι).registerAll calls).violations =
      forbidden.violations dedupe calls := by
  induction calls using List.reverseRecOn with
  | nil => cases dedupe <;> rfl
  | append_singleton calls call ih =>
      have hremembers : ((start forbidden dedupe : Run ι).registerAll calls).Remembers :=
        Remembers.registerAll (fun _ ↦ rfl) calls
      -- what the run compares the last call with is what it has found, since it has forgotten
      -- nothing
      rw [registerAll_append, Forbidden.violations_concat, ← ih]
      refine congrArg (_ ++ ·) ((toList_newViolation? hremembers call).trans ?_)
      rw [forbidden_registerAll, dedupe_registerAll]
      rfl

end Run

namespace Source

open Run (Finding)

/-- What the report on a file is made from: the problems of the file, or what its tree says. -/
inductive Evidence where
  | faulty (file : Text) (problems : List Problem)
  | walked (file : Text) (finding : Finding Unit)

namespace Evidence

def file : Evidence → Text
  | faulty file _ => file
  | walked file _ => file

def finding : Evidence → Finding Unit
  | faulty _ _ => .none
  | walked _ finding => finding

def report (forbidden : Forbidden) (dedupe : Bool) : Evidence → FileReport
  | faulty file problems => .ofProblems file problems
  | walked file finding => .ofRun file ((Run.start forbidden dedupe).enter finding)

variable (forbidden : Forbidden) (dedupe : Bool) (e : Evidence)

@[simp] theorem file_report : (e.report forbidden dedupe).file = e.file := by
  cases e <;> rfl

@[simp] theorem violations_report :
    (e.report forbidden dedupe).violations = forbidden.violations dedupe e.finding.calls := by
  cases e with
  | faulty file problems => cases dedupe <;> rfl
  | walked file finding => exact Run.violations_start_registerAll forbidden dedupe finding.calls

@[simp] theorem registry_report :
    (e.report forbidden dedupe).registry = (e.finding.calls.map Sighting.name).foldl Registry.record
      .empty := by
  cases e with
  | faulty file problems => rfl
  | walked file finding => exact Run.registry_registerAll _ _

@[simp] theorem functions_report : (e.report forbidden dedupe).functions = e.finding.functions := by
  cases e <;> rfl

end Evidence

def evidence (grammar : Grammar) (s : Source) : Except Abort Evidence := do
  match ← s.read grammar with
  | .faulty problems => pure (.faulty s.name problems)
  | .tree none => throw .nothing
  | .tree (some root) =>
    let fs ← ((Place.root root).below.mapM Run.finding).mapError .unresolvable
    pure (.walked s.name (.joined fs))

/-- What is made of a source by walking its tree from a run, if it has one, is made from its
evidence. -/
theorem read_bind_eq {β : Type} {grammar : Grammar} {s : Source} {k : Reading → Except Abort β}
    {g : Evidence → β} (r : Run Unit) (h : Run Unit → β)
    (hfaulty : ∀ problems, k (.faulty problems) = .ok (g (.faulty s.name problems)))
    (hnone : k (.tree none) = .error .nothing)
    (htree : ∀ root, k (.tree (some root)) =
      ((r.walk (.root root)).mapError .unresolvable).map h)
    (hwalked : ∀ finding, h (r.enter finding) = g (.walked s.name finding)) :
    (s.read grammar).bind k = (s.evidence grammar).map g := by
  unfold evidence
  cases s.read grammar with
  | error abort => rfl
  | ok reading =>
      cases reading with
      | faulty problems => exact hfaulty problems
      | tree root? =>
          cases root? with
          | none => exact hnone
          | some root =>
              refine (htree root).trans ?_
              rw [Run.walk_eq]
              cases hfindings : (Place.root root).below.mapM Run.finding with
              | error failure => simp only [ok_bind, hfindings]; rfl
              | ok fs =>
                  simp only [ok_bind, hfindings]
                  exact congrArg Except.ok (hwalked (.joined fs))

/-- The audit of a file is the report on its evidence; what is forbidden has no influence on the
evidence. -/
theorem check_eq (grammar : Grammar) (forbidden : Forbidden) (dedupe : Bool) (s : Source) :
    s.check grammar forbidden dedupe =
      (s.evidence grammar).map (Evidence.report forbidden dedupe) := by
  refine read_bind_eq (Run.start forbidden dedupe) (.ofRun s.name) (fun _ ↦ rfl) rfl
    (fun root ↦ ?_) fun _ ↦ rfl
  dsimp only
  cases (Run.start forbidden dedupe).walk (.root root) with
  | error failure => rfl
  | ok r => rfl

end Source

namespace Report

open Source (Evidence)

/-- The files are read once, and the reports on them are made from what was read. -/
theorem ofSources_eq (grammar : Grammar) (forbidden : Forbidden) (dedupe : Bool)
    (sources : List Source) :
    ofSources grammar forbidden dedupe sources =
      (sources.mapM (Source.evidence grammar)).map fun es ↦
        ⟨es.map (Evidence.report forbidden dedupe)⟩ := by
  have hcheck : Source.check grammar forbidden dedupe =
      fun s ↦ (s.evidence grammar).map (Evidence.report forbidden dedupe) :=
    funext fun s ↦ Source.check_eq grammar forbidden dedupe s
  rw [ofSources, hcheck, mapM_map_eq]
  cases sources.mapM (Source.evidence grammar) with
  | error abort => rfl
  | ok es => rfl

/-- Two audits of the same files agree in something if they agree in it whatever was read. -/
theorem map_ofSources_congr {β : Type} {forbidden forbidden' : Forbidden} {dedupe dedupe' : Bool}
    {f g : Report → β}
    (h : ∀ es : List Evidence, f ⟨es.map (Evidence.report forbidden dedupe)⟩ =
      g ⟨es.map (Evidence.report forbidden' dedupe')⟩)
    (grammar : Grammar) (sources : List Source) :
    (ofSources grammar forbidden dedupe sources).map f =
      (ofSources grammar forbidden' dedupe' sources).map g := by
  rw [ofSources_eq, ofSources_eq]
  cases sources.mapM (Source.evidence grammar) with
  | error abort => rfl
  | ok es => exact congrArg Except.ok (h es)

section

variable (forbidden : Forbidden) (dedupe : Bool) (es : List Evidence)

theorem violations_reports :
    violations ⟨es.map (Evidence.report forbidden dedupe)⟩ =
      es.flatMap fun e ↦ forbidden.violations dedupe e.finding.calls := by
  simp [violations, List.flatMap_map]

theorem registry_reports :
    registry ⟨es.map (Evidence.report forbidden dedupe)⟩ =
      .mergeAll (es.map fun e ↦ (e.finding.calls.map Sighting.name).foldl Registry.record
        .empty) := by
  simp [registry, Function.comp_def]

theorem functions_reports :
    functions ⟨es.map (Evidence.report forbidden dedupe)⟩ =
      es.flatMap fun e ↦ e.finding.functions := by
  simp [functions, List.flatMap_map]

theorem failures_reports :
    failures ⟨es.map (Evidence.report forbidden dedupe)⟩ =
      (es.map (Evidence.report ⟨[]⟩ false)).filter FileReport.failed := by
  induction es with
  | nil => rfl
  | cons e es ih =>
      rw [failures] at ih
      rw [failures, List.map_cons, List.map_cons, List.filter_cons, List.filter_cons, ih]
      -- the report on a faulty file does not depend on what is forbidden, and the others are
      -- dropped
      cases e <;> rfl

end

/-- What an audit finds whatever is forbidden: the calls and the declared functions of each file and
of all files, and the files with problems. -/
def findings (r : Report) :
    List (Text × Registry × List Sighting) × Registry × List Sighting × List FileReport :=
  (r.files.map fun f ↦ (f.file, f.registry, f.functions), r.registry, r.functions, r.failures)

/-- Forbidden names and deduplication do nothing but select violations.  What is found otherwise is
the same for all sets of names, with and without deduplication; the violations for a smaller set are
those for a larger one that have a name in it; and deduplication drops from the violations of each
file those that have an equal one before them. -/
theorem ofSources_selects (grammar : Grammar) (sources : List Source) {forbidden wider : Forbidden}
    (h : ∀ name, forbidden.contains name = true → wider.contains name = true) :
    (∀ dedupe dedupe', (ofSources grammar forbidden dedupe sources).map findings =
        (ofSources grammar wider dedupe' sources).map findings) ∧
      (∀ dedupe, (ofSources grammar forbidden dedupe sources).map violations =
        (ofSources grammar wider dedupe sources).map fun r ↦
          r.violations.filter fun v ↦ forbidden.contains v.name) ∧
      (ofSources grammar forbidden true sources).map
        (fun r ↦ r.files.map fun f ↦ (f.file, f.violations)) =
        (ofSources grammar forbidden false sources).map fun r ↦
          r.files.map fun f ↦ (f.file, f.violations.eraseDups) := by
  refine ⟨?_, ?_, ?_⟩
  · intro dedupe dedupe'
    apply map_ofSources_congr
    intro es
    simp only [findings, registry_reports, functions_reports, failures_reports, List.map_map,
      Function.comp_def, Evidence.file_report, Evidence.registry_report, Evidence.functions_report]
  · intro dedupe
    apply map_ofSources_congr
    intro es
    rw [violations_reports, violations_reports, List.filter_flatMap]
    simp only [Forbidden.violations_eq_filter h]
  · apply map_ofSources_congr
    intro es
    simp only [List.map_map, Function.comp_def, Evidence.file_report, Evidence.violations_report,
      Forbidden.violations, if_true, Bool.false_eq_true, if_false]

end Report

namespace Concrete

/-- The tree of `$().hide()`. -/
def fluentCall : Concrete :=
  let arguments := branch .arguments (some .arguments) [token none "(", token none ")"]
  branch .program none [
    branch .expressionStatement none [
      branch .callExpression none [
        branch .memberExpression (some .function) [
          branch .callExpression (some .object) [word .identifier (some .function) "$", arguments],
          token none ".", word .propertyIdentifier (some .property) "hide"],
        arguments]]]

end Concrete

namespace Report

theorem ofSources_selects_fluentCall :
    (∀ name, Forbidden.contains ⟨["$"]⟩ name = true →
      Forbidden.contains ⟨["$", "hide"]⟩ name = true) ∧
      (ofSources (fun _ ↦ Concrete.fluentCall) ⟨["$", "hide"]⟩ false
          [⟨"a.js", "$().hide()"⟩]).map violations =
        .ok [⟨"hide", ⟨"a.js", 1⟩⟩, ⟨"hide", ⟨"a.js", 1⟩⟩, ⟨"$", ⟨"a.js", 1⟩⟩, ⟨"$", ⟨"a.js", 1⟩⟩] ∧
      (ofSources (fun _ ↦ Concrete.fluentCall) ⟨["$"]⟩ false
          [⟨"a.js", "$().hide()"⟩]).map violations =
        (ofSources (fun _ ↦ Concrete.fluentCall) ⟨["$", "hide"]⟩ false
          [⟨"a.js", "$().hide()"⟩]).map fun r ↦
            r.violations.filter fun v ↦ Forbidden.contains ⟨["$"]⟩ v.name := by
  have hsub : ∀ name, Forbidden.contains ⟨["$"]⟩ name = true →
      Forbidden.contains ⟨["$", "hide"]⟩ name = true := by
    intro name hname
    simp_all [Forbidden.contains]
  obtain ⟨-, hviolations, -⟩ :=
    ofSources_selects (fun _ ↦ Concrete.fluentCall) [⟨"a.js", "$().hide()"⟩] hsub
  exact ⟨hsub, by decide +kernel, hviolations false⟩

end Report

end CallAudit
