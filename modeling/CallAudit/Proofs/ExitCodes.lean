import CallAudit.Proofs.Batches
import CallAudit.Proofs.Preparations
import CallAudit.Proofs.Sessions
import CallAudit.Proofs.SyntaxProblems

/-!
# Exit codes

How a `check` command ends.  A failure of the setup is reported with the exit code 2, unless it is
one of those that are not foreseen, which stop the command.  If there is no failure, the exit code
follows from the problems and the violations of the sources: a source that can be encoded is always
audited to its end, because a tree without problems is converted and walked.  A command also stops
at a print that its streams refuse.
-/

namespace CallAudit

/-! ### Sources -/

/-- The trees of a grammar that have no problems have the fields and the texts that the analysis
asks for. -/
def Grammar.Sound (grammar : Grammar) : Prop :=
  ∀ content : Text, content.Scalar → (grammar content).label.faulty = false →
    (grammar content).kind.isSkipped = false ∧ (grammar content).Orderly

namespace Source

def problems (grammar : Grammar) (s : Source) : List Problem :=
  Concrete.problems s.name (grammar s.content)

def report (grammar : Grammar) (forbidden : Forbidden) (dedupe : Bool) (s : Source) : FileReport :=
  (s.check grammar forbidden dedupe).toOption.getD (.ofProblems s.name [])

def violations (grammar : Grammar) (forbidden : Forbidden) (dedupe : Bool) (s : Source) :
    List Sighting :=
  (s.report grammar forbidden dedupe).violations

section Audit

variable {grammar : Grammar} {s : Source}

theorem concrete_eq (hs : s.content.Scalar) : s.concrete grammar = .ok (grammar s.content) := by
  rw [concrete, Text.hasSurrogate_eq_false_iff.mpr hs]
  rfl

theorem concrete_eq_error (hs : ¬ s.content.Scalar) :
    s.concrete grammar = .error .unencodable := by
  rw [concrete, (Bool.not_eq_false _).mp (mt Text.hasSurrogate_eq_false_iff.mp hs)]
  rfl

theorem validate_eq (hs : s.content.Scalar) : s.validate grammar = .ok (s.problems grammar) := by
  rw [validate, concrete_eq hs]
  rfl

theorem read_eq_error (hs : ¬ s.content.Scalar) : s.read grammar = .error .unencodable := by
  rw [read, concrete_eq_error hs]
  rfl

/-- A source with problems is read as such, and one without is read as a tree that can be walked. -/
theorem read_cases (hgrammar : grammar.Sound) (hs : s.content.Scalar) :
    (s.problems grammar ≠ [] ∧ s.read grammar = .ok (.faulty (s.problems grammar))) ∨
      s.problems grammar = [] ∧ ∃ root, s.read grammar = .ok (.tree (some root)) ∧
        root.WellShaped := by
  have hread : s.read grammar =
      if (s.problems grammar).isEmpty then do
        let root? ← (Node.ofConcrete s.name (grammar s.content)).mapError .undecodable
        pure (.tree root?)
      else pure (.faulty (s.problems grammar)) := by
    rw [read, concrete_eq hs]
    rfl
  by_cases hproblems : s.problems grammar = []
  · obtain ⟨hroot, horderly⟩ := hgrammar s.content hs (Concrete.problems_eq_nil_iff.mp hproblems)
    obtain ⟨root, hbuilt, hshaped⟩ := Node.exists_ofConcrete_eq_ok s.name hroot horderly
    refine .inr ⟨hproblems, root, ?_, hshaped⟩
    rw [hread, hproblems, hbuilt]
    rfl
  · refine .inl ⟨hproblems, ?_⟩
    rw [hread, if_neg (by simpa using hproblems)]
    rfl

/-- The audit of a source succeeds.  A source with problems has them in its report and no
violations. -/
theorem check_eq_report (hgrammar : grammar.Sound) (hs : s.content.Scalar) (forbidden : Forbidden)
    (dedupe : Bool) :
    s.check grammar forbidden dedupe = .ok (s.report grammar forbidden dedupe) ∧
      (s.report grammar forbidden dedupe).problems = s.problems grammar ∧
      (s.problems grammar ≠ [] → s.violations grammar forbidden dedupe = []) := by
  suffices h : ∃ report, s.check grammar forbidden dedupe = .ok report ∧
      report.problems = s.problems grammar ∧
      (s.problems grammar ≠ [] → report.violations = []) by
    obtain ⟨r, hcheck, hproblems, hviolations⟩ := h
    have hreport : s.report grammar forbidden dedupe = r := by
      rw [report, hcheck]
      rfl
    rw [violations, hreport]
    exact ⟨hcheck, hproblems, hviolations⟩
  rcases read_cases hgrammar hs with ⟨hproblems, hread⟩ | ⟨hproblems, root, hread, hshaped⟩
  · refine ⟨.ofProblems s.name (s.problems grammar), ?_, rfl, fun _ ↦ rfl⟩
    rw [check, hread]
    rfl
  · have hfindings : ∀ q ∈ (Place.root root).below, Succeeds (Run.finding q) :=
      fun q hq ↦ Run.succeeds_finding_of_mem_below hshaped hq
    obtain ⟨fs, -, hwalk⟩ := Run.exists_walk_eq_ok (Run.start forbidden dedupe) hfindings
    refine ⟨.ofRun s.name ((Run.start forbidden dedupe).enter (.joined fs)), ?_, hproblems.symm, ?_⟩
    · rw [check, hread]
      simp only [ok_bind, hwalk]
      rfl
    · intro h
      exact absurd hproblems h

end Audit

end Source

namespace Outcome

variable {w : Workplace} {o : Options} {p : Preparation}

/-! ### The audit -/

def HasProblems (w : Workplace) (p : Preparation) : Prop :=
  ∃ s ∈ p.sources, s.problems w.grammar ≠ []

instance : Decidable (HasProblems w p) :=
  inferInstanceAs (Decidable (∃ s ∈ p.sources, s.problems w.grammar ≠ []))

def Halts (w : Workplace) (o : Options) (p : Preparation) : Prop :=
  o.validate = true ∧ HasProblems w p

instance : Decidable (Halts w o p) := inferInstanceAs (Decidable (_ ∧ _))

def fullReport (w : Workplace) (o : Options) (p : Preparation) : Report :=
  ⟨p.sources.map (Source.report w.grammar p.forbidden o.dedupe)⟩

def violations (w : Workplace) (o : Options) (p : Preparation) : List Sighting :=
  p.sources.flatMap (Source.violations w.grammar p.forbidden o.dedupe)

def listing (w : Workplace) (s : Source) : List Print := (treeOf w s).toOption.getD []

def listings (w : Workplace) (o : Options) (p : Preparation) : List Print :=
  if o.printTree then p.sources.flatMap (listing w) else []

def results (w : Workplace) (o : Options) (p : Preparation) (r : Report) : List Print :=
  listings w o p ++ (r.violations.map (fun v ↦ line w v.violation) ++ tables w o r)

theorem problems_eq_nil_iff :
    p.sources.flatMap (Source.problems w.grammar) = [] ↔ ¬ HasProblems w p := by
  simp [HasProblems]

theorem violations_fullReport : (fullReport w o p).violations = violations w o p := by
  rw [Report.violations, fullReport, List.flatMap_map]
  rfl

/-- The exit code that the problems and the violations of the sources call for. -/
def requiredCode (w : Workplace) (o : Options) (p : Preparation) : Nat :=
  if Halts w o p then 2
  else if ∃ s ∈ p.sources, s.problems w.grammar = [] ∧
      s.violations w.grammar p.forbidden o.dedupe ≠ [] then 1
  else if HasProblems w p then 2
  else 0

/-- A source that can be audited has a tree to list, or problems. -/
theorem treeOf_eq_listing {s : Source} {forbidden : Forbidden} {dedupe : Bool} {file : FileReport}
    (h : s.check w.grammar forbidden dedupe = .ok file) : treeOf w s = .ok (listing w s) := by
  obtain ⟨reading, hread, -⟩ := bind_eq_ok_iff.mp h
  unfold listing treeOf
  rw [hread]
  cases reading with
  | faulty problems => rfl
  | tree root? => cases root? <;> rfl

section Ends

open Session

theorem gives_report {r : Report}
    (h : Report.ofSources w.grammar p.forbidden o.dedupe p.sources = .ok r) :
    Gives (report w o p) [] r := by
  obtain ⟨files, hfiles, rfl⟩ := map_eq_ok_iff.mp h
  have hfile : List.Forall₂ (fun s file ↦ Gives (fileReport w o p s) [] file) p.sources files := by
    refine (mapM_eq_ok_iff.mp hfiles).imp fun s file hs ↦ ?_
    exact (Gives.quiet (by rw [hs]; rfl)).bind ((Gives.log _).bind (.pure file))
  have hreport : Gives (report w o p) ([] ++ (p.sources.flatMap (fun _ ↦ []) ++ [])) ⟨files⟩ :=
    (Gives.log _).bind ((Gives.mapM hfile).bind (.pure _))
  rw [List.flatMap_eq_nil_iff.mpr fun _ _ ↦ rfl] at hreport
  exact hreport

theorem result_fileReport (w : Workplace) (o : Options) (p : Preparation) (s : Source) :
    (fileReport w o p s).result =
      (s.check w.grammar p.forbidden o.dedupe).mapError .unaudited := by
  unfold fileReport
  cases s.check w.grammar p.forbidden o.dedupe with
  | error reason => rfl
  | ok file => rfl

/-- An audit comes to the report on all sources, whatever it prints on the way. -/
theorem result_report (w : Workplace) (o : Options) (p : Preparation) :
    (report w o p).result =
      (Report.ofSources w.grammar p.forbidden o.dedupe p.sources).mapError .unaudited := by
  change (p.sources.mapM (fileReport w o p) >>= fun files ↦ pure (Report.mk files)).result = _
  rw [result_bind, result_mapM, funext (result_fileReport w o p), mapM_mapError, Report.ofSources]
  cases p.sources.mapM (Source.check w.grammar p.forbidden o.dedupe) with
  | error reason => rfl
  | ok files => rfl

theorem gives_concluded (w : Workplace) (o : Options) (r : Report) :
    Gives (concluded w o r) (r.violations.map (fun v ↦ line w v.violation) ++ tables w o r)
      (verdict r).1 := by
  have hconcluded : Gives (concluded w o r)
      ([] ++ (r.violations.map (fun v ↦ line w v.violation) ++ (tables w o r ++ ([] ++ []))))
      (verdict r).1 :=
    .bind (.print_err _) (.bind (.print_out _) (.bind (.print_out _)
      (.bind (.print_err _) (.pure _))))
  simpa using hconcluded

theorem gives_halted (w : Workplace) (found : List Problem) :
    Gives (halted w found) [] errorCode :=
  (Gives.print_err _).bind ((Gives.print_err _).bind (.pure _))

/-- An audit that problems do not keep from being carried out prints what it finds. -/
theorem gives_audit {r : Report} (hvalid : o.validate = true → problems w p.sources = .ok [])
    (hr : Report.ofSources w.grammar p.forbidden o.dedupe p.sources = .ok r) :
    Gives (audit w o p) (results w o p r) (verdict r).1 := by
  have hfound : Gives (attempt (if o.validate then problems w p.sources else pure [])) [] [] := by
    refine Gives.quiet ?_
    split
    · next hvalidate => rw [hvalid hvalidate]; rfl
    · rfl
  have htree : ∀ s ∈ p.sources, Gives (printTree w s) (listing w s) () := by
    intro s hs
    obtain ⟨files, hfiles, -⟩ := map_eq_ok_iff.mp hr
    obtain ⟨file, hfile⟩ := Succeeds.mapM_iff.mp ⟨files, hfiles⟩ s hs
    exact (Gives.quiet (by rw [treeOf_eq_listing hfile]; rfl)).bind (.print_out _)
  have hrest := (gives_report hr).bind (gives_concluded w o r)
  unfold audit results listings
  refine hfound.bind ?_
  cases o.printTree with
  | false => exact hrest
  | true => exact (Gives.forM htree).bind hrest

end Ends

section Audit

variable (hgrammar : w.grammar.Sound) (hscalar : ∀ s ∈ p.sources, s.content.Scalar)

include hscalar in
theorem problems_eq :
    problems w p.sources = .ok (p.sources.flatMap (Source.problems w.grammar)) := by
  rw [problems, mapM_eq_ok_map fun s hs ↦ Source.validate_eq (hscalar s hs)]
  rfl

include hgrammar hscalar

theorem ofSources_eq_fullReport :
    Report.ofSources w.grammar p.forbidden o.dedupe p.sources = .ok (fullReport w o p) := by
  rw [Report.ofSources, mapM_eq_ok_map fun s hs ↦
    (Source.check_eq_report hgrammar (hscalar s hs) p.forbidden o.dedupe).1]
  rfl

theorem failures_eq_nil_iff : (fullReport w o p).failures = [] ↔ ¬ HasProblems w p := by
  have hproblems : ∀ s ∈ p.sources,
      (s.report w.grammar p.forbidden o.dedupe).problems = s.problems w.grammar :=
    fun s hs ↦ (Source.check_eq_report hgrammar (hscalar s hs) p.forbidden o.dedupe).2.1
  simp only [fullReport, Report.failures, FileReport.failed, List.filter_eq_nil_iff,
    List.forall_mem_map]
  constructor
  · rintro h ⟨s, hs, hne⟩
    exact h s hs (by simpa [hproblems s hs] using hne)
  · intro h s hs hfailed
    exact h ⟨s, hs, by simpa [hproblems s hs] using hfailed⟩

/-- There are violations if and only if a source without problems has some. -/
theorem violations_ne_nil_iff :
    violations w o p ≠ [] ↔ ∃ s ∈ p.sources, s.problems w.grammar = [] ∧
      s.violations w.grammar p.forbidden o.dedupe ≠ [] := by
  have hnone : ∀ s ∈ p.sources, s.problems w.grammar ≠ [] →
      s.violations w.grammar p.forbidden o.dedupe = [] :=
    fun s hs ↦ (Source.check_eq_report hgrammar (hscalar s hs) p.forbidden o.dedupe).2.2
  rw [violations, Ne, List.flatMap_eq_nil_iff]
  push Not
  constructor
  · rintro ⟨s, hs, hne⟩
    exact ⟨s, hs, not_not.mp fun hproblems ↦ hne (hnone s hs hproblems), hne⟩
  · rintro ⟨s, hs, -, hne⟩
    exact ⟨s, hs, hne⟩

/-- The verdict on the full report is the exit code that the sources call for, unless the audit is
kept from being carried out. -/
theorem verdict_fullReport (h : ¬ Halts w o p) :
    (verdict (fullReport w o p)).1 = requiredCode w o p := by
  have hviolations := violations_ne_nil_iff (o := o) hgrammar hscalar
  have hfailures := failures_eq_nil_iff (o := o) hgrammar hscalar
  simp only [requiredCode, verdict, h, violations_fullReport, ← hviolations, Bool.not_eq_true',
    List.isEmpty_eq_false_iff, if_false, ne_eq, hfailures, not_not]
  split
  · rfl
  · split
    · rfl
    · rfl

theorem requiredCode_eq_one_iff :
    requiredCode w o p = violationsCode ↔ ¬ Halts w o p ∧ violations w o p ≠ [] := by
  rw [violations_ne_nil_iff hgrammar hscalar, requiredCode, violationsCode]
  split
  · simp [*]
  · split
    · simp [*]
    · split
      · simp [*]
      · simp [*]

/-- The audit of sources that can be encoded comes to the required exit code. -/
theorem gives_audit_requiredCode :
    Session.Gives (audit w o p)
      (if Halts w o p then [] else results w o p (fullReport w o p)) (requiredCode w o p) := by
  by_cases h : Halts w o p
  · have hfound : (p.sources.flatMap (Source.problems w.grammar)).isEmpty = false := by
      rw [List.isEmpty_eq_false_iff, Ne, problems_eq_nil_iff, not_not]
      exact h.2
    have hhalted := gives_halted w (p.sources.flatMap (Source.problems w.grammar))
    rw [if_pos h, requiredCode, if_pos h, audit, problems_eq hscalar, if_pos h.1]
    refine Session.Gives.bind (.quiet rfl) ?_
    simp only [hfound]
    exact hhalted
  · rw [if_neg h, ← verdict_fullReport hgrammar hscalar h]
    refine gives_audit (fun hvalidate ↦ ?_) (ofSources_eq_fullReport hgrammar hscalar)
    rw [problems_eq hscalar, problems_eq_nil_iff.mpr fun hproblems ↦ h ⟨hvalidate, hproblems⟩]

end Audit

section Unencodable

/-- Whatever is done with sources one after the other ends at the first that cannot be encoded. -/
theorem mapM_eq_error_of_surrogate {ε β : Type} {f : Source → Except ε β} {e : ε}
    {ss : List Source} (h : ∃ s ∈ ss, ¬ s.content.Scalar)
    (hok : ∀ s, s.content.Scalar → Succeeds (f s))
    (herror : ∀ s, ¬ s.content.Scalar → f s = .error e) : ss.mapM f = .error e := by
  apply mapM_eq_error_of_exists
  · intro s hs
    by_cases hscalar : s.content.Scalar
    · exact .inl (hok s hscalar)
    · exact .inr (herror s hscalar)
  · obtain ⟨s, hs, hsurrogate⟩ := h
    refine ⟨s, hs, ?_⟩
    rintro ⟨b, hb⟩
    cases (herror s hsurrogate).symm.trans hb

variable (h : ∃ s ∈ p.sources, ¬ s.content.Scalar)
include h

theorem problems_of_surrogate : problems w p.sources = .error .unencodable := by
  rw [problems, mapM_eq_error_of_surrogate h (fun s hs ↦ ⟨_, Source.validate_eq hs⟩) fun s hs ↦ ?_]
  · rfl
  · rw [Source.validate, Source.concrete_eq_error hs]
    rfl

theorem result_printTree_of_surrogate (hgrammar : w.grammar.Sound) :
    (p.sources.forM (printTree w)).result = .error (.unaudited .unencodable) := by
  rw [Session.result_forM, forM_eq_map_mapM,
    mapM_eq_error_of_surrogate h (fun s hs ↦ ?_) fun s hs ↦ ?_]
  · rfl
  · have hcheck := (Source.check_eq_report hgrammar hs p.forbidden false).1
    rw [printTree, treeOf_eq_listing hcheck]
    exact ⟨_, rfl⟩
  · rw [printTree, treeOf, Source.read_eq_error hs]
    rfl

theorem result_report_of_surrogate (hgrammar : w.grammar.Sound) :
    (report w o p).result = .error (.unaudited .unencodable) := by
  rw [result_report, Report.ofSources, mapM_eq_error_of_surrogate h (fun s hs ↦ ?_) fun s hs ↦ ?_]
  · rfl
  · exact ⟨_, (Source.check_eq_report hgrammar hs p.forbidden o.dedupe).1⟩
  · rw [Source.check, Source.read_eq_error hs]
    rfl

/-- A source that cannot be encoded keeps an audit from being carried out. -/
theorem result_audit_of_surrogate (hgrammar : w.grammar.Sound) :
    (audit w o p).result = .error (.unaudited .unencodable) := by
  unfold audit
  rw [Session.result_bind]
  cases o.validate with
  | true =>
      rw [if_pos rfl, problems_of_surrogate h]
      rfl
  | false =>
      cases o.printTree with
      | false =>
          show ((report w o p) >>= fun r ↦ concluded w o r).result = _
          rw [Session.result_bind, result_report_of_surrogate h hgrammar]
          rfl
      | true =>
          show (_ >>= fun _ ↦ _ : Session Nat).result = _
          rw [Session.result_bind, result_printTree_of_surrogate h hgrammar]
          rfl

end Unencodable

/-! ### The whole command -/

theorem check_of_ready (h : Ready w o p) :
    check w o = (do Session.log (prepare w o).1; audit w o p) := by
  rw [check, prepare_eq_ok_iff.mpr h]

theorem check_of_hindered {failure : SetupFailure} (h : Hindered w o failure) :
    check w o = (do Session.log (prepare w o).1; failed w failure) := by
  rw [check, prepare_eq_error_iff.mpr h]

theorem result_check_of_hindered {failure : SetupFailure} (h : Hindered w o failure) :
    (check w o).result = (failed w failure).result := by
  rw [check_of_hindered h]
  rfl

theorem result_check_of_surrogate (hgrammar : w.grammar.Sound) (h : Ready w o p)
    (hsurrogate : ∃ s ∈ p.sources, ¬ s.content.Scalar) :
    (check w o).result = .error (.unaudited .unencodable) := by
  rw [check_of_ready h, Session.result_bind, result_audit_of_surrogate hsurrogate hgrammar]
  rfl

/-- A command that finds all it needs ends with the required exit code.  Its results are those of
the audit, and none if problems halt it. -/
theorem gives_check (hgrammar : w.grammar.Sound) (h : Ready w o p)
    (hscalar : ∀ s ∈ p.sources, s.content.Scalar) :
    Session.Gives (check w o) (if Halts w o p then [] else results w o p (fullReport w o p))
      (requiredCode w o p) := by
  rw [check_of_ready h]
  exact (Session.Gives.log _).bind (gives_audit_requiredCode hgrammar hscalar)

/-- Nothing is printed on a failure that is not foreseen. -/
theorem taken_of_not_reported {failure : SetupFailure} (h : Hindered w o failure)
    (hfailure : ∀ e, failure ≠ .reported e) : (check w o).Taken w.streams := by
  have hlog : (check w o).events = (prepare w o).1.map .log := by
    rw [check_of_hindered h]
    cases failure with
    | reported e => exact absurd rfl (hfailure e)
    | fatal fault => exact List.append_nil _
    | unsettable name => exact List.append_nil _
  intro event hevent stop hrefuses
  rw [hlog] at hevent
  obtain ⟨entry, -, rfl⟩ := List.mem_map.mp hevent
  cases hrefuses

/-- Why a command stops: something that it prints is refused first, its setup fails in a way that is
not foreseen, or all that it prints is taken, but a source cannot be encoded. -/
inductive Stops (w : Workplace) (o : Options) : Stop → Prop
  | unprinted {event : Event} {stop : Stop}
      (h : FirstAt (Session.Refuses w.streams) (check w o).events event stop) : Stops w o stop
  | unread {fault : ReadError} (h : Hindered w o (.fatal fault)) : Stops w o (.unread fault)
  | unset {name : Text} (h : Hindered w o (.unsettable name)) : Stops w o (.unset name)
  | unaudited {p : Preparation} {s : Source} (hready : Ready w o p) (hs : s ∈ p.sources)
      (hsurrogate : ¬ s.content.Scalar) (htaken : (check w o).Taken w.streams) :
      Stops w o (.unaudited .unencodable)

/-- The reasons to stop are complete. -/
theorem result_ofCheck_eq_error_iff (hgrammar : w.grammar.Sound) {stop : Stop} :
    (ofCheck w o).result = .error stop ↔ Stops w o stop := by
  rw [ofCheck, Session.result_play_eq_error_iff]
  constructor
  · rintro (⟨event, hfirst⟩ | ⟨htaken, hresult⟩)
    · exact .unprinted hfirst
    · rcases ready_or_hindered w o with ⟨p, hready⟩ | ⟨failure, hhindered⟩
      · by_cases hscalar : ∀ s ∈ p.sources, s.content.Scalar
        · cases (gives_check hgrammar hready hscalar).result_eq.symm.trans hresult
        · push Not at hscalar
          obtain ⟨s, hs, hsurrogate⟩ := hscalar
          have hunaudited := result_check_of_surrogate hgrammar hready ⟨s, hs, hsurrogate⟩
          rw [← Except.error.inj (hunaudited.symm.trans hresult)]
          exact .unaudited hready hs hsurrogate htaken
      · rw [result_check_of_hindered hhindered] at hresult
        cases failure with
        | reported e => cases hresult
        | fatal fault =>
            cases hresult
            exact .unread hhindered
        | unsettable name =>
            cases hresult
            exact .unset hhindered
  · intro h
    cases h with
    | unprinted hfirst => exact .inl ⟨_, hfirst⟩
    | unread hhindered =>
        refine .inr ⟨taken_of_not_reported hhindered (by rintro e ⟨⟩), ?_⟩
        rw [result_check_of_hindered hhindered]
        rfl
    | unset hhindered =>
        refine .inr ⟨taken_of_not_reported hhindered (by rintro e ⟨⟩), ?_⟩
        rw [result_check_of_hindered hhindered]
        rfl
    | unaudited hready hs hsurrogate htaken =>
        exact .inr ⟨htaken, result_check_of_surrogate hgrammar hready ⟨_, hs, hsurrogate⟩⟩

/-- How a `check` command ends, if trees without problems have the fields and the texts that the
analysis asks for.

* If all that the audit needs is there and can be encoded, and all that is printed is taken, the
  command has the required exit code.  Violations are printed if that is 1 and only then, all of
  them in the order of the sources; and sources that were validated have no failures.
* If something is not there that is foreseen, the command ends with the exit code 2, prints no
  results and says what is not there.
* In all other cases the command stops, and only then.  Sources that were read with codecs that
  yield nothing but scalars do not stop it. -/
theorem ofCheck_exitCode (w : Workplace) (o : Options) (hgrammar : w.grammar.Sound) :
    (∀ p, Ready w o p → (∀ s ∈ p.sources, s.content.Scalar) → (check w o).Taken w.streams →
      ∃ r, Report.ofSources w.grammar p.forbidden o.dedupe p.sources = .ok r ∧
        (ofCheck w o).result = .ok (requiredCode w o p) ∧
        (ofCheck w o).out = (if Halts w o p then []
          else listings w o p ++
            ((violations w o p).map (fun v ↦ line w v.violation) ++ tables w o r)) ∧
        (requiredCode w o p = violationsCode ↔ ¬ Halts w o p ∧ violations w o p ≠ []) ∧
        (o.validate = true → ¬ Halts w o p → r.failures = [])) ∧
    (∀ e, Hindered w o (.reported e) → (check w o).Taken w.streams →
      (ofCheck w o).result = .ok errorCode ∧ (ofCheck w o).out = [] ∧
        (ofCheck w o).err = [errorLine w e]) ∧
    (∀ stop, (ofCheck w o).result = .error stop ↔ Stops w o stop) ∧
    (w.codecs.Scalar → ∀ p, Ready w o p → ∀ s ∈ p.sources, s.content.Scalar) ∧
    ((∃ p, Ready w o p) ∨ ∃ failure, Hindered w o failure) := by
  refine ⟨?_, ?_, fun stop ↦ result_ofCheck_eq_error_iff hgrammar, ?_, ready_or_hindered w o⟩
  · intro p hready hscalar htaken
    have hgives := gives_check hgrammar hready hscalar
    refine ⟨fullReport w o p, ofSources_eq_fullReport hgrammar hscalar, ?_, ?_,
      requiredCode_eq_one_iff hgrammar hscalar, fun hvalidate hhalts ↦ ?_⟩
    · rw [ofCheck, Session.play_of_taken htaken, hgives.result_eq]
    · rw [ofCheck, Session.play_of_taken htaken, hgives.out_eq, results, violations_fullReport]
    · exact (failures_eq_nil_iff hgrammar hscalar).mpr fun hproblems ↦ hhalts ⟨hvalidate, hproblems⟩
  · intro e hhindered htaken
    rw [ofCheck, Session.play_of_taken htaken, check_of_hindered hhindered]
    have hgives :
        Session.Gives (do Session.log (prepare w o).1; failed w (.reported e)) [] errorCode :=
      .bind (.log _) (.bind (.print_err _) (.pure _))
    refine ⟨hgives.result_eq, hgives.out_eq, ?_⟩
    rw [Session.err, Session.printed_bind_of_ok .err rfl, Session.printed_log, failed,
      Session.printed_bind_of_ok .err rfl, Session.printed_print]
    rfl
  · intro hcodecs p hready
    exact hready.encodable hcodecs

end Outcome

theorem Grammar.sound_fluent : fluent.Sound := by
  intro content _ hfaulty
  unfold fluent at hfaulty ⊢
  split at hfaulty
  · next h =>
    rw [if_pos h]
    exact ⟨rfl, by decide +kernel, Concrete.legible_of_ascii (by decide +kernel)⟩
  · cases hfaulty

/-- A directory with a script and a file that forbids a name that the script calls. -/
def Workplace.fluent : Workplace where
  files.files :=
    [([Concrete.ascii "a.js"], Concrete.ascii "$().hide()"),
      ([Concrete.ascii "f.txt"], Concrete.ascii "$")]
  environment := []
  grammar := .fluent
  terminal := .ofReported (some "utf-8") none
  streams := .unicode

def Options.plain : Options where
  paths := [.parse "a.js"]
  nameFiles := [.parse "f.txt"]
  charset? := none
  validate := true
  printTree := false
  level? := none
  jobs? := none
  dedupe := false
  showCalls := false
  showFunctions := false

namespace Outcome

theorem ready_plain : Ready .fluent .plain ⟨.warning, ⟨["$"]⟩, [⟨"a.js", "$().hide()"⟩]⟩ := by
  have h : ((prepare .fluent .plain).2.map fun p ↦ (p.level, p.forbidden, p.sources)) =
      .ok (.warning, ⟨["$"]⟩, [⟨"a.js", "$().hide()"⟩]) := by
    decide +kernel
  obtain ⟨⟨level, forbidden, sources⟩, hp, heq⟩ := map_eq_ok_iff.mp h
  cases heq
  exact prepare_eq_ok_iff.mp hp

theorem ofCheck_exitCode_plain :
    Workplace.fluent.grammar.Sound ∧ Workplace.fluent.codecs.Scalar ∧
      (check .fluent .plain).Taken .unicode ∧ (ofCheck .fluent .plain).result = .ok 1 ∧
        (ofCheck .fluent .plain).out =
          .replicate 2 (.line "a.js: line 1, calling forbidden function $") := by
  have htaken : (check .fluent .plain).Taken .unicode :=
    Session.findSome?_refusal?_eq_none_iff.mp (by decide +kernel)
  refine ⟨Grammar.sound_fluent, Charset.scalar_codecs, htaken, ?_⟩
  obtain ⟨hends, -, -, hscalar, -⟩ := ofCheck_exitCode .fluent .plain Grammar.sound_fluent
  obtain ⟨r, -, hresult, hout, -⟩ :=
    hends _ ready_plain (hscalar Charset.scalar_codecs _ ready_plain) htaken
  have htables : tables .fluent .plain r = [] := rfl
  rw [htables] at hout
  have hcode : requiredCode .fluent .plain ⟨.warning, ⟨["$"]⟩, [⟨"a.js", "$().hide()"⟩]⟩ = 1 := by
    decide +kernel
  exact ⟨hresult.trans (congrArg Except.ok hcode), hout.trans (by decide +kernel)⟩

/-- What the byte `0xFF` is in an argument: a text without an encoding. -/
def strayByte : Text := [⟨0xDCFF, by decide⟩]

/-- A charset that names none is reported, but not one whose name has no encoding. -/
theorem ofCheck_strayCharset :
    FailsAt (Workplace.fluent.files.readText Charset.codecs strayByte) [.parse "f.txt"]
        (.parse "f.txt") (.unencodableCharset strayByte) ∧
      (ofCheck .fluent { Options.plain with charset? := some strayByte }).result =
        .error (.unread (.unencodableCharset strayByte)) := by
  refine ⟨⟨[], [], rfl, List.forall_mem_nil _, ?_⟩, ?_⟩
  · decide +kernel
  · decide +kernel

end Outcome

end CallAudit
