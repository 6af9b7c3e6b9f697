import CallAudit.Proofs.FileStamps
import CallAudit.Proofs.Selection

/-!
# Batches of files

Every file of a batch has a run of its own, and the results are put together.  If no two files have
the same name, that comes to the same as one run for all files: counts that are merged are those of
counting on, and the violations of one file never equal those of another.  If files share a name,
violations are reported once for each of them.
-/

namespace CallAudit

/-! ### Merged registries -/

namespace Registry

theorem addTo_addTo (name : Text) (x y : Int) (entries : List (Text × Int)) :
    addTo name y (addTo name x entries) = addTo name (x + y) entries := by
  induction entries with
  | nil => simp [addTo]
  | cons entry rest ih =>
      obtain ⟨n, count⟩ := entry
      by_cases hn : n = name
      · simp [addTo, hn, Int.add_assoc]
      · simp [addTo, hn, ih]

/-- A name that was seen keeps its place, so that its count can be raised before or after another
one. -/
theorem addTo_comm {seen : Text} {entries : List (Text × Int)}
    (h : (entries.lookup seen).isSome = true) (name : Text) (x y : Int) :
    addTo seen y (addTo name x entries) = addTo name x (addTo seen y entries) := by
  induction entries with
  | nil => simp at h
  | cons entry rest ih =>
      obtain ⟨n, count⟩ := entry
      by_cases hseen : n = seen
      · subst hseen
        by_cases hname : n = name
        · subst hname
          simp only [addTo, if_true, Int.add_right_comm]
        · simp [addTo, hname]
      · have hrest : (rest.lookup seen).isSome = true := by
          rwa [lookup_cons_eq_ite, if_neg (Ne.symm hseen)] at h
        by_cases hname : n = name
        · subst hname
          simp [addTo, hseen]
        · simp [addTo, hseen, hname, ih hrest]

theorem contains_add (r : Registry) (name x : Text) (amount : Int) :
    (r.add name amount).contains x = (decide (x = name) || r.contains x) := by
  rw [contains, count?, add, lookup_addTo]
  by_cases hx : x = name
  · simp [hx]
  · simp [hx, contains, count?]

theorem foldl_add_of_contains {seen : Text} (y : Int) (entries : List (Text × Int)) {r : Registry}
    (h : r.contains seen = true) :
    entries.foldl (fun r entry ↦ r.add entry.1 entry.2) (r.add seen y) =
      (entries.foldl (fun r entry ↦ r.add entry.1 entry.2) r).add seen y := by
  induction entries generalizing r with
  | nil => rfl
  | cons entry entries ih =>
      have hcomm : (r.add seen y).add entry.1 entry.2 = (r.add entry.1 entry.2).add seen y :=
        congrArg Registry.mk (addTo_comm h entry.1 entry.2 y).symm
      rw [List.foldl_cons, hcomm, List.foldl_cons]
      apply ih
      rw [contains_add, h, Bool.or_true]

/-- The step: a call that is counted before merging may as well be counted after it. -/
theorem merge_record (r other : Registry) (name : Text) :
    r.merge (other.record name) = (r.merge other).record name := by
  obtain ⟨entries⟩ := other
  change (addTo name 1 entries).foldl (fun r entry ↦ r.add entry.1 entry.2) r =
    (entries.foldl (fun r entry ↦ r.add entry.1 entry.2) r).add name 1
  induction entries generalizing r with
  | nil => rfl
  | cons entry rest ih =>
      obtain ⟨n, count⟩ := entry
      by_cases hn : n = name
      · subst hn
        -- the name is merged here, so that the entries behind it find it seen
        have hadd : r.add n (count + 1) = (r.add n count).add n 1 :=
          congrArg Registry.mk (addTo_addTo n count 1 r.entries).symm
        have hseen : (r.add n count).contains n = true := by simp [contains_add]
        rw [addTo, if_pos rfl, List.foldl_cons, hadd]
        exact foldl_add_of_contains 1 rest hseen
      · rw [addTo, if_neg hn, List.foldl_cons]
        exact ih (r.add n count)

/-- Merging what was counted by itself is counting on. -/
theorem merge_foldl_record (r : Registry) (names : List Text) :
    r.merge (names.foldl record empty) = names.foldl record r := by
  induction names using List.reverseRecOn with
  | nil => rfl
  | append_singleton names name ih =>
      simp only [List.foldl_append, List.foldl_cons, List.foldl_nil]
      rw [merge_record, ih]

/-- Counting list by list and merging is counting everything, with the names in the order of first
sight. -/
theorem mergeAll_foldl_record {β : Type} (names : β → List Text) (bs : List β) :
    mergeAll (bs.map fun b ↦ (names b).foldl record empty) =
      (bs.flatMap names).foldl record empty := by
  suffices h : ∀ r : Registry, (bs.map fun b ↦ (names b).foldl record empty).foldl merge r =
      (bs.flatMap names).foldl record r from h empty
  induction bs with
  | nil => exact fun r ↦ rfl
  | cons b bs ih =>
      intro r
      rw [List.map_cons, List.foldl_cons, merge_foldl_record, ih, List.flatMap_cons,
        List.foldl_append]

end Registry

/-! ### Violations of different files -/

namespace Forbidden

/-- Dropping repetitions within each list is enough if no call is in two of the lists. -/
theorem violations_flatMap {β : Type} (forbidden : Forbidden) (dedupe : Bool)
    (calls : β → List Sighting) {bs : List β}
    (h : bs.Pairwise fun b c ↦ (calls b).Disjoint (calls c)) :
    forbidden.violations dedupe (bs.flatMap calls) =
      bs.flatMap fun b ↦ forbidden.violations dedupe (calls b) := by
  have hhits : forbidden.hits (bs.flatMap calls) = bs.flatMap fun b ↦ forbidden.hits (calls b) :=
    List.filter_flatMap
  cases dedupe with
  | false => exact hhits
  | true =>
      simp only [violations, if_true, hhits]
      clear hhits
      induction bs with
      | nil => rfl
      | cons b bs ih =>
          obtain ⟨hb, hbs⟩ := List.pairwise_cons.mp h
          rw [List.flatMap_cons, List.flatMap_cons, List.eraseDups_append, ← ih hbs]
          -- no later call is among those of the first list, so that none is removed
          congr 2
          rw [List.removeAll, List.filter_eq_self]
          intro call hcall
          obtain ⟨c, hc, hcall⟩ := List.mem_flatMap.mp hcall
          have hnot : call ∉ forbidden.hits (calls b) := fun hmem ↦
            hb c hc (List.mem_of_mem_filter hmem) (List.mem_of_mem_filter hcall)
          simpa using hnot

end Forbidden

namespace Source

open Run (Finding)

variable {grammar : Grammar}

theorem yields_read (s : Source) :
    Yields (s.read grammar) fun reading ↦ ∀ root, reading = .tree (some root) →
      root.FromFile s.name := by
  refine .of_bind fun t ↦ ?_
  dsimp only
  split
  · have hbuilt : Yields ((Node.ofConcrete s.name t).mapError Abort.undecodable) fun root? ↦
        ∀ root, root? = some root → root.FromFile s.name := by
      refine .mapError _ ?_
      rintro root? hroot root rfl
      exact Node.fromFile_of_ofConcrete hroot
    refine .bind hbuilt fun root? hroot ↦ .ok ?_
    intro root heq
    exact hroot root (Reading.tree.inj heq)
  · refine .ok ?_
    intro root heq
    cases heq

theorem yields_evidence (s : Source) :
    Yields (s.evidence grammar) fun e ↦ e.file = s.name ∧ e.finding.CallsIn s.name := by
  refine .bind s.yields_read fun reading hreading ↦ ?_
  cases reading with
  | faulty problems => exact .ok ⟨rfl, Finding.callsIn_of_calls_eq_nil rfl⟩
  | tree root? =>
      cases root? with
      | none => exact .error _
      | some root =>
          have hbelow := Run.yields_findings_below (hreading root rfl)
          exact .bind (.mapError _ hbelow) fun fs hfs ↦ .ok ⟨rfl, hfs⟩

/-- The evidence on a file names the file, and all calls in it are reported there. -/
theorem yields_mapM_evidence (sources : List Source) :
    Yields (sources.mapM (evidence grammar)) fun es ↦
      es.map Evidence.file = sources.map name ∧ ∀ e ∈ es, e.finding.CallsIn e.file := by
  induction sources with
  | nil => exact .ok ⟨rfl, List.forall_mem_nil _⟩
  | cons s sources ih =>
      rw [List.mapM_cons]
      refine .bind s.yields_evidence fun e ⟨hfile, hcalls⟩ ↦ .bind ih fun es ⟨hfiles, hall⟩ ↦
        .ok ⟨?_, ?_⟩
      · rw [List.map_cons, List.map_cons, hfile, hfiles]
      · rw [← hfile] at hcalls
        exact List.forall_mem_cons.mpr ⟨hcalls, hall⟩

/-- Files of different names have no call in common, since a call says which file it is in. -/
theorem Evidence.pairwise_disjoint {es : List Evidence}
    (hcalls : ∀ e ∈ es, e.finding.CallsIn e.file) (hnames : (es.map Evidence.file).Nodup) :
    es.Pairwise fun e d ↦ e.finding.calls.Disjoint d.finding.calls := by
  apply (List.pairwise_map.mp hnames).imp_of_mem
  intro e d he hd hne call hmem hmem'
  exact hne ((hcalls e he call hmem).symm.trans (hcalls d hd call hmem'))

end Source

/-! ### One run for all files -/

namespace Run

open Source (Evidence)

/-- Walks the tree of a file; a file with problems is passed over. -/
def walkSource (grammar : Grammar) (r : Run Unit) (s : Source) : Except Abort (Run Unit) := do
  match ← s.read grammar with
  | .faulty _ => pure r
  | .tree none => throw .nothing
  | .tree (some root) => (r.walk (.root root)).mapError .unresolvable

def walkSources (grammar : Grammar) (r : Run Unit) (sources : List Source) :
    Except Abort (Run Unit) :=
  sources.foldlM (walkSource grammar) r

theorem walkSource_eq (grammar : Grammar) (r : Run Unit) (s : Source) :
    r.walkSource grammar s = (s.evidence grammar).map fun e ↦ r.enter e.finding := by
  refine Source.read_bind_eq r id ?_ rfl (fun root ↦ ?_) fun _ ↦ rfl
  · intro problems
    exact congrArg Except.ok (enter_none r).symm
  · dsimp only
    cases r.walk (.root root) with
    | error failure => rfl
    | ok r => rfl

/-- One run for all files enters the findings on the files, joined in their order. -/
theorem walkSources_eq (grammar : Grammar) (r : Run Unit) (sources : List Source) :
    r.walkSources grammar sources =
      (sources.mapM (Source.evidence grammar)).map fun es ↦
        r.enter (.joined (es.map Evidence.finding)) := by
  simp only [← foldl_enter]
  rw [walkSources]
  induction sources generalizing r with
  | nil => rfl
  | cons s sources ih =>
      rw [List.foldlM_cons, walkSource_eq, List.mapM_cons]
      cases s.evidence grammar with
      | error abort => rfl
      | ok e =>
          refine (ih (r.enter e.finding)).trans ?_
          cases sources.mapM (Source.evidence grammar) with
          | error abort => rfl
          | ok es => rfl

end Run

namespace Report

open Source (Evidence)

/-- If no two files have the same name, reports on the files put together are what one run for all
of them finds: the same violations in the same order, the same counts in the order of first sight,
and the same functions.  Both fail alike, and files with problems contribute nothing. -/
theorem ofSources_eq_walkSources (grammar : Grammar) (forbidden : Forbidden) (dedupe : Bool)
    (sources : List Source) (hnames : (sources.map Source.name).Nodup) :
    (ofSources grammar forbidden dedupe sources).map
      (fun r ↦ (r.violations, r.registry, r.functions)) =
      ((Run.start forbidden dedupe).walkSources grammar sources).map fun r ↦
        (r.violations, r.registry, r.functions) := by
  rw [ofSources_eq, Run.walkSources_eq]
  cases hes : sources.mapM (Source.evidence grammar) with
  | error abort => rfl
  | ok es =>
      obtain ⟨hfiles, hcalls⟩ := Source.yields_mapM_evidence sources es hes
      have hdisjoint := Evidence.pairwise_disjoint hcalls (hfiles ▸ hnames)
      have hall : (Run.Finding.joined (es.map Evidence.finding)).calls =
          es.flatMap fun e ↦ e.finding.calls :=
        List.flatMap_map ..
      have hviolations : violations ⟨es.map (Evidence.report forbidden dedupe)⟩ =
          ((Run.start forbidden dedupe).enter (.joined (es.map Evidence.finding))).violations := by
        rw [violations_reports, ← forbidden.violations_flatMap dedupe _ hdisjoint, ← hall]
        exact (Run.violations_start_registerAll forbidden dedupe _).symm
      have hregistry : registry ⟨es.map (Evidence.report forbidden dedupe)⟩ =
          ((Run.start forbidden dedupe).enter (.joined (es.map Evidence.finding))).registry := by
        rw [registry_reports, Registry.mergeAll_foldl_record, ← List.map_flatMap, ← hall]
        exact (Run.registry_registerAll (Run.start forbidden dedupe) _).symm
      have hfunctions : functions ⟨es.map (Evidence.report forbidden dedupe)⟩ =
          ((Run.start forbidden dedupe).enter (.joined (es.map Evidence.finding))).functions := by
        rw [functions_reports]
        exact (List.flatMap_map ..).symm
      exact congrArg Except.ok (Prod.ext hviolations (Prod.ext hregistry hfunctions))

end Report

namespace Concrete

def garbage : Concrete := .node ⟨.error, none, true, false, true, ascii "$(", 0, 0⟩ []

end Concrete

def Grammar.fluent : Grammar :=
  fun content ↦ if content = "$().hide()" then .fluentCall else .garbage

namespace Report

open Source (Evidence)

/-- The file in the middle is skipped. -/
theorem ofSources_eq_walkSources_around_garbage :
    (["a.js", "b.js", "c.js"] : List Text).Nodup ∧
      (ofSources .fluent ⟨["$"]⟩ true [⟨"a.js", "$().hide()"⟩, ⟨"b.js", "$("⟩,
        ⟨"c.js", "$().hide()"⟩]).map
          (fun r ↦ (r.violations, r.registry, r.functions)) =
        .ok ([⟨"$", ⟨"a.js", 1⟩⟩, ⟨"$", ⟨"c.js", 1⟩⟩], ⟨[("hide", 4), ("$", 4)]⟩, []) := by
  have hnames : (["a.js", "b.js", "c.js"] : List Text).Nodup := by decide
  refine ⟨hnames, (ofSources_eq_walkSources .fluent ⟨["$"]⟩ true
    [⟨"a.js", "$().hide()"⟩, ⟨"b.js", "$("⟩, ⟨"c.js", "$().hide()"⟩] hnames).trans ?_⟩
  decide +kernel

/-! ### Repeated violations -/

theorem yields_ofSources (grammar : Grammar) (forbidden : Forbidden) (dedupe : Bool)
    (sources : List Source) :
    Yields (ofSources grammar forbidden dedupe sources) fun r ↦
      r.files.map FileReport.file = sources.map Source.name ∧
        ∀ f ∈ r.files, ∀ v ∈ f.violations, v.site.file = f.file := by
  rw [ofSources_eq]
  apply Yields.map
  intro es hes
  obtain ⟨hfiles, hcalls⟩ := Source.yields_mapM_evidence sources es hes
  refine ⟨?_, ?_⟩
  · simpa [Function.comp_def] using hfiles
  · intro f hf v hv
    obtain ⟨e, he, rfl⟩ := List.mem_map.mp hf
    rw [Evidence.violations_report, Forbidden.mem_violations] at hv
    rw [Evidence.file_report]
    exact hcalls e he v (List.mem_of_mem_filter hv)

theorem nodup_violations_of_mem_files {grammar : Grammar} {forbidden : Forbidden}
    {sources : List Source} {report : Report}
    (h : ofSources grammar forbidden true sources = .ok report) {f : FileReport}
    (hf : f ∈ report.files) : f.violations.Nodup := by
  rw [ofSources_eq] at h
  obtain ⟨es, -, rfl⟩ := map_eq_ok_iff.mp h
  obtain ⟨e, -, rfl⟩ := List.mem_map.mp hf
  rw [Evidence.violations_report]
  exact nodup_eraseDups _

/-- Deduplication is for each file by itself.  No file repeats a violation, but a batch does as soon
as two files of the same name have one in common, and not otherwise; so it does not if all names are
different. -/
theorem nodup_violations_iff {grammar : Grammar} {forbidden : Forbidden} {sources : List Source}
    {report : Report} (h : ofSources grammar forbidden true sources = .ok report) :
    (∀ f ∈ report.files, f.violations.Nodup) ∧
      (report.violations.Nodup ↔
        report.files.Pairwise fun f g ↦ f.file = g.file → f.violations.Disjoint g.violations) ∧
      ((sources.map Source.name).Nodup → report.violations.Nodup) := by
  obtain ⟨hfiles, hin⟩ := yields_ofSources grammar forbidden true sources report h
  have hnodup : ∀ f ∈ report.files, f.violations.Nodup :=
    fun f hf ↦ nodup_violations_of_mem_files h hf
  have hiff : report.violations.Nodup ↔
      report.files.Pairwise fun f g ↦ f.file = g.file → f.violations.Disjoint g.violations := by
    rw [violations, List.nodup_flatMap, and_iff_right hnodup]
    apply List.Pairwise.iff_of_mem
    intro f g hf hg
    constructor
    · intro hdisjoint _
      exact hdisjoint
    · -- a common violation would be in both files
      intro hdisjoint v hv hv'
      exact hdisjoint ((hin f hf v hv).symm.trans (hin g hg v hv')) hv hv'
  refine ⟨hnodup, hiff, ?_⟩
  intro hnames
  rw [← hfiles] at hnames
  rw [hiff]
  apply (List.pairwise_map.mp hnames).imp
  intro f g hne heq
  exact absurd heq hne

theorem nodup_violations_iff_fluentCall :
    ∃ report, ofSources .fluent ⟨["$"]⟩ true [⟨"a.js", "$().hide()"⟩, ⟨"b.js", "$().hide()"⟩] =
      .ok report ∧
      report.violations = [⟨"$", ⟨"a.js", 1⟩⟩, ⟨"$", ⟨"b.js", 1⟩⟩] ∧ report.violations.Nodup := by
  have hviolations : (ofSources .fluent ⟨["$"]⟩ true
      [⟨"a.js", "$().hide()"⟩, ⟨"b.js", "$().hide()"⟩]).map violations =
        .ok [⟨"$", ⟨"a.js", 1⟩⟩, ⟨"$", ⟨"b.js", 1⟩⟩] := by decide +kernel
  obtain ⟨report, hreport, hviolations⟩ := map_eq_ok_iff.mp hviolations
  exact ⟨report, hreport, hviolations, (nodup_violations_iff hreport).2.2 (by decide)⟩

/-- A file that is given twice has its violations reported twice. -/
theorem violations_repeated_with_file :
    ∃ report, ofSources .fluent ⟨["$"]⟩ true [⟨"a.js", "$().hide()"⟩, ⟨"a.js", "$().hide()"⟩] =
      .ok report ∧
      report.violations = [⟨"$", ⟨"a.js", 1⟩⟩, ⟨"$", ⟨"a.js", 1⟩⟩] ∧ ¬ report.violations.Nodup := by
  have hviolations : (ofSources .fluent ⟨["$"]⟩ true
      [⟨"a.js", "$().hide()"⟩, ⟨"a.js", "$().hide()"⟩]).map violations =
        .ok [⟨"$", ⟨"a.js", 1⟩⟩, ⟨"$", ⟨"a.js", 1⟩⟩] := by decide +kernel
  obtain ⟨report, hreport, hviolations⟩ := map_eq_ok_iff.mp hviolations
  refine ⟨report, hreport, hviolations, ?_⟩
  rw [hviolations]
  decide

end Report

end CallAudit
