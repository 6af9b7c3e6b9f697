import CallAudit.CommandLine.Words
import CallAudit.Files.FileSystem
import CallAudit.Log

/-!
# Errors of the setup

What can be wrong with the settings, the arguments and the files that an audit is asked to use.
These errors are reported to the user; a few faults of files are not foreseen and stop the program
instead.
-/

namespace CallAudit

inductive Purpose where
  | source
  | names
  | flags
  deriving DecidableEq, Repr

def Purpose.description : Purpose → String
  | source => "source file"
  | names => "forbidden function file"
  | flags => "flag file"

inductive SetupError where
  | unreadable (purpose : Purpose) (path : Path) (cause : ReadError)
  | unsplittable (path : Path) (cause : Words.Error)
  | unnamedFlagFile
  | nestedFlagFile
  | missingSource (path : Path)
  | levelSetting (value : Text)
  | jobsSetting (value : Text)
  | tooFewJobs
  | unknownLevel (value : Text)
  | noNameFile
  deriving DecidableEq

namespace SetupError

def levelNames : Text :=
  Text.join ", " (Log.Level.selectable.map fun level ↦ Text.ofString level.name)

def message : SetupError → Text
  | unreadable purpose path cause =>
    .concat ["Cannot read ", purpose.description, " ", path.render, ": ", cause.message]
  | unsplittable path cause => .concat ["Cannot read flag file ", path.render, ": ", cause.message]
  | unnamedFlagFile => "--flagfile needs a file name"
  | nestedFlagFile => "Arguments in the flag file cannot contain --flagfile option."
  | missingSource path => .concat ["Source path does not exist: ", path.render]
  | levelSetting value =>
    .concat ["FORBIDDEN_FUNCTION_LOG_LEVEL must be one of ", levelNames, ", got ", value.quoted]
  | jobsSetting value => .concat ["FORBIDDEN_FUNCTION_JOBS must be an integer, got ", value.quoted]
  | tooFewJobs => "FORBIDDEN_FUNCTION_JOBS must be at least 1"
  | unknownLevel value => .concat ["Unknown logging level ", value.quoted]
  | noNameFile => "No forbidden function file given (use --funcs or FORBIDDEN_FUNCTION_FUNCS)"

end SetupError

/-- Why a setup fails: an error for the user, or a fault that stops the program, which is one of a
file or a variable that cannot be set. -/
inductive SetupFailure where
  | reported (error : SetupError)
  | fatal (fault : ReadError)
  | unsettable (name : Text)
  deriving DecidableEq

namespace ReadError

/-- Faults that are not foreseen when names and sources are read: names of files and charsets
without an encoding, and bytes that a codec refuses without naming them. -/
def isFatal : ReadError → Bool
  | unopened _ .unencodable | unopened _ .embeddedNull | unencodableCharset _ | charsetWithNull
  | undecoded (.refused _) => true
  | _ => false

def toFailure (purpose : Purpose) (path : Path) (e : ReadError) : SetupFailure :=
  if e.isFatal then .fatal e else .reported (.unreadable purpose path e)

end ReadError

end CallAudit
