import CallAudit.CommandLine.FlagFile
import CallAudit.CommandLine.Request
import CallAudit.CommandLine.Session
import CallAudit.Markup
import CallAudit.Setup.Load
import CallAudit.Setup.Settings

/-!
# Outcomes

What a command prints and how it ends.  A command works on files, an environment, a grammar and a
terminal, and with codecs, a format of files of variables, a display and streams that it is given.
-/

namespace CallAudit

structure Workplace where
  files : FileSystem
  environment : Environment
  codecs : Codecs := Charset.codecs
  variableFormat : VariableFormat := EnvFile.format
  grammar : Grammar
  terminal : Terminal
  display : Display := Markup.display
  streams : Streams := .takeAll

def Workplace.envFile (w : Workplace) : Path :=
  (Path.ofNames w.files.workingDirectory).below [".env"]

def Workplace.settings (w : Workplace) : Except SetupFailure Settings :=
  Settings.load w.files w.codecs w.variableFormat w.environment w.envFile

abbrev Outcome := Session Nat

namespace Outcome

def violationsCode : Nat := 1

def errorCode : Nat := 2

/-- The exit code that the user sees; a command that stops has one too. -/
def status (outcome : Outcome) : Nat :=
  match outcome.result with
  | .ok code => code
  | .error _ => 1

def line (w : Workplace) (t : Text) : Print := .line (w.terminal.print w.display t)

def marked (w : Workplace) (parts : List Text) : Print :=
  .line (w.terminal.printMarkup w.display (.concat parts))

def errorLine (w : Workplace) (e : SetupError) : Print :=
  marked w ["[bold red]Error:[/bold red] ", w.display.escape e.message]

/-! ### The setup -/

structure Preparation where
  level : Log.Level
  forbidden : Forbidden
  sources : List Source

def given (option? : Option Text) : Option Text := option?.filter fun t ↦ !t.isEmpty

def level (o : Options) (s : Settings) : Except SetupError Log.Level :=
  match given o.level? with
  | none => .ok s.level
  | some name => (Log.Level.select? name.upper).elim (.error (.unknownLevel name)) .ok

def sources (w : Workplace) (charset : Text) (paths : List Path) :
    Except SetupFailure (List Source) := do
  let files ← Source.collect w.files paths
  files.mapM (Source.load w.files w.codecs charset none)

def prepare (w : Workplace) (o : Options) : List Log.Entry × Except SetupFailure Preparation :=
  match w.settings with
  | .error failure => ([], .error failure)
  | .ok settings =>
    match level o settings with
    | .error e => ([], .error (.reported e))
    | .ok level =>
      let charset := (given o.charset?).getD settings.charset
      let nameFiles := if o.nameFiles.isEmpty then settings.nameFiles else o.nameFiles
      if nameFiles.isEmpty then ([], .error (.reported .noNameFile))
      else
        let (log, forbidden) := Forbidden.load w.files w.codecs charset nameFiles
        (Log.shown level log, do
          let forbidden ← forbidden
          let sources ← sources w charset o.paths
          pure { level, forbidden, sources })

/-! ### The audit -/

def attempt {α : Type} (x : Except Abort α) : Session α := .quiet (x.mapError .unaudited)

def problems (w : Workplace) (sources : List Source) : Except Abort (List Problem) :=
  (sources.mapM (Source.validate w.grammar)).map List.flatten

def problemLines (w : Workplace) (ps : List Problem) : List Print :=
  ps.map fun p ↦ marked w [w.display.escape p.render]

def treeOf (w : Workplace) (s : Source) : Except Abort (List Print) := do
  match ← s.read w.grammar with
  | .tree (some root) =>
    pure [marked w ["[bold blue]Tree for ", w.display.escape s.name, ":[/bold blue]"],
      line w (Node.dump root)]
  | _ => pure []

def cell (display : Display) (t : Text) : Text := display.render (display.escape t)

def callTable (w : Workplace) (r : Report) : Print :=
  .table "Resolved Calls" ["Name", "Count"]
    (r.registry.entries.map fun e ↦ [cell w.display (w.terminal.sanitize e.1), Text.ofInt e.2])

def functionTable (w : Workplace) (r : Report) : Print :=
  .table "Declared Functions" ["Function", "File", "Line"]
    (r.functions.map fun f ↦
      [cell w.display (w.terminal.sanitize f.name), cell w.display f.site.file,
        Text.ofInt f.site.line])

def tables (w : Workplace) (o : Options) (r : Report) : List Print :=
  (if o.showCalls then [callTable w r] else []) ++
    if o.showFunctions then [functionTable w r] else []

def verdict (r : Report) : Nat × List Text :=
  if !r.violations.isEmpty then
    (violationsCode,
      ["[bold red]", Text.ofNat r.violations.length, " forbidden call(s) found[/bold red]"])
  else if !r.failures.isEmpty then
    (errorCode,
      ["[bold yellow]", Text.ofNat r.failures.length, " file(s) could not be parsed[/bold yellow]"])
  else
    (0, ["[bold green]No forbidden calls in ", Text.ofNat r.files.length, " file(s)[/bold green]"])

/-- What is printed on problems that keep all sources from being audited. -/
def halted (w : Workplace) (found : List Problem) : Outcome := do
  let count := Text.ofNat found.length
  .print .err (problemLines w found)
  .print .err [marked w ["[bold red]", count, " syntax error(s); nothing was checked[/bold red]"]]
  pure errorCode

def concluded (w : Workplace) (o : Options) (r : Report) : Outcome := do
  .print .err (r.failures.flatMap fun f ↦ problemLines w f.problems)
  .print .out (r.violations.map fun v ↦ line w v.violation)
  .print .out (tables w o r)
  .print .err [marked w (verdict r).2]
  pure (verdict r).1

def printTree (w : Workplace) (s : Source) : Session Unit := do
  .print .out (← attempt (treeOf w s))

def fileReport (w : Workplace) (o : Options) (p : Preparation) (s : Source) :
    Session FileReport := do
  let file ← attempt (s.check w.grammar p.forbidden o.dedupe)
  .log (Log.shown p.level file.log)
  pure file

def report (w : Workplace) (o : Options) (p : Preparation) : Session Report := do
  .log (Log.shown p.level (p.sources.map fun s ↦ ⟨.info, .concat ["Adding main file: ", s.name]⟩))
  pure ⟨← p.sources.mapM (fileReport w o p)⟩

/-- Audits the sources and prints what is found.  If they are to be validated first, a problem in
one of them keeps all from being audited. -/
def audit (w : Workplace) (o : Options) (p : Preparation) : Outcome := do
  let found ← attempt (if o.validate then problems w p.sources else pure [])
  if !found.isEmpty then halted w found
  else
    if o.printTree then p.sources.forM (printTree w)
    concluded w o (← report w o p)

/-! ### Commands -/

def failed (w : Workplace) : SetupFailure → Outcome
  | .reported e => do
    .print .err [errorLine w e]
    pure errorCode
  | .fatal fault => .quiet (.error (.unread fault))
  | .unsettable name => .quiet (.error (.unset name))

/-- A `check` command, whatever the streams take of it. -/
def check (w : Workplace) (o : Options) : Outcome := do
  .log (prepare w o).1
  match (prepare w o).2 with
  | .ok p => audit w o p
  | .error failure => failed w failure

def versionLine : String := "forbidden-function 1.0.0"

def request (w : Workplace) : Request → Outcome
  | .help => pure 0
  | .misuse => pure errorCode
  | .version => do
    .print .out [marked w [versionLine]]
    pure 0
  | .check o => check w o

def flagCharset (w : Workplace) (args : List Text) : Except SetupFailure Text :=
  match given (FlagFile.charset? args) with
  | some charset => .ok charset
  | none => w.settings.map Settings.charset

/-- Supplies the command `check` to arguments that begin with no command. -/
def withCommand : List Text → List Text
  | [] => []
  | name :: rest =>
    if (Request.Command.find? name).isSome then name :: rest else ("check" : Text) :: name :: rest

def expanded (w : Workplace) (args : List Text) : Except SetupFailure (List Text) := do
  let charset ← flagCharset w args
  let args ← (FlagFile.expand w.files w.codecs charset args).mapError .reported
  pure (withCommand args)

def command (w : Workplace) (args : List Text) : Outcome :=
  if args.any FlagFile.isOption then
    match expanded w args with
    | .ok args => request w (.parse args)
    | .error failure => failed w failure
  else request w (.parse args)

def ofCheck (w : Workplace) (o : Options) : Outcome := (check w o).play w.streams

def ofArguments (w : Workplace) (args : List Text) : Outcome := (command w args).play w.streams

end Outcome

end CallAudit
