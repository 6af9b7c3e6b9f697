import CallAudit.Number.Numeral
import CallAudit.Setup.EnvFile
import CallAudit.Setup.Error

/-!
# Settings

Defaults for an audit come from environment variables.  A file of variables supplies those that the
environment lacks.
-/

namespace CallAudit

abbrev Environment := List (Text × Text)

namespace Environment

/-- The value of a variable, which is kept as bytes. -/
def value? (env : Environment) (name : Text) : Option Text := (env.lookup name).map Text.viaBytes

def isSettable (name value : Text) : Bool :=
  name.hasBytes && value.hasBytes && !name.any fun c : CodePoint ↦ c == '='

/-- The value that entries give a variable: the last entry counts, also if it has no value. -/
def entryValue? (entries : List (Text × Option Text)) (name : Text) : Option Text :=
  (entries.reverse.lookup name).join

/-- The first variable that entries give a value which cannot be set, among those that the
environment lacks. -/
def unsettable? (env : Environment) (entries : List (Text × Option Text)) : Option Text :=
  (entries.map Prod.fst).find? fun name ↦
    (env.lookup name).isNone && (entryValue? entries name).any fun value ↦ !isSettable name value

/-- The value of a variable after entries were added to an environment.  They set what it lacks. -/
def extended? (env : Environment) (entries : List (Text × Option Text)) (name : Text) :
    Option Text :=
  (env.value? name).or ((entryValue? entries name).map Text.viaBytes)

end Environment

structure Settings where
  nameFiles : List Path
  charset : Text
  level : Log.Level
  jobs : Int
  deriving DecidableEq

namespace Settings

/-- The paths in a list that is divided by colons; blank ones are left out. -/
def pathList (t : Text) : List Path :=
  ((t.splitAt ':').filter fun name ↦ !(Text.trim name).isEmpty).map Path.parse

def ofVariables (lookup? : Text → Option Text) : Except SetupError Settings :=
  let levelName := Text.upper ((lookup? "FORBIDDEN_FUNCTION_LOG_LEVEL").getD "WARNING")
  let jobsText := (lookup? "FORBIDDEN_FUNCTION_JOBS").getD "1"
  match Log.Level.select? levelName, Numeral.integer? jobsText with
  | none, _ => .error (.levelSetting levelName)
  | some _, none => .error (.jobsSetting jobsText)
  | some level, some jobs =>
    if jobs < 1 then .error .tooFewJobs
    else
      .ok
        { nameFiles := pathList ((lookup? "FORBIDDEN_FUNCTION_FUNCS").getD [])
          charset := (lookup? "FORBIDDEN_FUNCTION_CHARSET").getD "UTF-8"
          level
          jobs }

/-- The text of a file of variables; what is no file has none. -/
def fileText (fs : FileSystem) (codecs : Codecs) (file : Path) : Except SetupFailure Text :=
  match fs.find file with
  | .ok (.file _ _) => (fs.readText codecs "utf-8" file).mapError .fatal
  | _ => .ok []

def load (fs : FileSystem) (codecs : Codecs) (format : VariableFormat) (env : Environment)
    (file : Path) : Except SetupFailure Settings := do
  let entries := format env.value? (← fileText fs codecs file)
  match env.unsettable? entries with
  | some name => .error (.unsettable name)
  | none => (ofVariables (env.extended? entries)).mapError .reported

end Settings

end CallAudit
