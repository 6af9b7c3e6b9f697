import CallAudit.Audit.Walk
import CallAudit.Concrete.Problem
import CallAudit.Log
import CallAudit.Node.Build

/-!
# Audits of several files

Every file is audited by itself, and the results are put together in the order of the files.  A file
that does not follow the grammar is not walked; its report holds the problems instead.
-/

namespace CallAudit

structure Source where
  name : Text
  content : Text
  deriving DecidableEq

/-- The concrete tree that the grammar assigns to the text of a file. -/
abbrev Grammar := Text → Concrete

/-- Why the audit of a file is abandoned: its text has no encoding, a node's text is none, a node
has not the shape of its kind, or there is nothing to walk. -/
inductive Abort where
  | unencodable
  | undecodable (fault : DecodeFault)
  | unresolvable (failure : Node.Failure)
  | nothing
  deriving DecidableEq

namespace Source

def describe (s : Source) : Text := Text.concat ["SourceFile: ", s.name]

def concrete (grammar : Grammar) (s : Source) : Except Abort Concrete :=
  if s.content.hasSurrogate then .error .unencodable else .ok (grammar s.content)

def validate (grammar : Grammar) (s : Source) : Except Abort (List Problem) :=
  (s.concrete grammar).map (Concrete.problems s.name)

inductive Reading where
  | faulty (problems : List Problem)
  | tree (root? : Option (Node Unit))

def read (grammar : Grammar) (s : Source) : Except Abort Reading := do
  let t ← s.concrete grammar
  let problems := Concrete.problems s.name t
  if problems.isEmpty then
    let root? ← (Node.ofConcrete s.name t).mapError .undecodable
    pure (.tree root?)
  else pure (.faulty problems)

end Source

structure FileReport where
  file : Text
  problems : List Problem
  registry : Registry
  calls : List Sighting
  violations : List Sighting
  functions : List Sighting
  deriving DecidableEq

namespace FileReport

def ofProblems (file : Text) (problems : List Problem) : FileReport :=
  { file, problems, registry := .empty, calls := [], violations := [], functions := [] }

def ofRun {ι : Type} (file : Text) (r : Run ι) : FileReport :=
  { file, problems := [], registry := r.registry, calls := r.calls, violations := r.violations,
    functions := r.functions }

def failed (report : FileReport) : Bool := !report.problems.isEmpty

def log (report : FileReport) : List Log.Entry :=
  if report.failed then
    [⟨.warning, .concat ["Skipping ", report.file, ": ", Text.ofNat report.problems.length,
      " syntax error(s)"]⟩]
  else
    let call (c : Sighting) : Log.Entry :=
      ⟨.debug, .concat ["call ", c.name, " at ", c.site.file, ":", Text.ofInt c.site.line]⟩
    ⟨.info, .concat ["starting process... ", report.file]⟩ :: report.calls.map call ++
      [⟨.info, .concat ["Done processing ", report.file, ": ", Text.ofNat report.registry.size,
        " call name(s), ", Text.ofNat report.violations.length, " violation(s)"]⟩,
        ⟨.debug, .concat ["calls in ", report.file, ": ", report.registry.render]⟩]

end FileReport

namespace Source

def check (grammar : Grammar) (forbidden : Forbidden) (dedupe : Bool) (s : Source) :
    Except Abort FileReport := do
  match ← s.read grammar with
  | .faulty problems => pure (.ofProblems s.name problems)
  | .tree none => throw .nothing
  | .tree (some root) =>
    let r ← ((Run.start forbidden dedupe).walk (.root root)).mapError .unresolvable
    pure (.ofRun s.name r)

end Source

structure Report where
  files : List FileReport
  deriving DecidableEq

namespace Report

def ofSources (grammar : Grammar) (forbidden : Forbidden) (dedupe : Bool) (sources : List Source) :
    Except Abort Report :=
  (sources.mapM (Source.check grammar forbidden dedupe)).map Report.mk

def violations (r : Report) : List Sighting := r.files.flatMap FileReport.violations

def registry (r : Report) : Registry := .mergeAll (r.files.map FileReport.registry)

def functions (r : Report) : List Sighting := r.files.flatMap FileReport.functions

/-- The reports on files that do not follow the grammar. -/
def failures (r : Report) : List FileReport := r.files.filter FileReport.failed

def log (r : Report) : List Log.Entry := r.files.flatMap FileReport.log

end Report

end CallAudit
