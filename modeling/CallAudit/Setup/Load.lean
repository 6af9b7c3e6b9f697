import CallAudit.Audit.Batch
import CallAudit.Setup.Error

/-!
# Loading names and sources

The forbidden names are the union of the names that some files list.  Sources are given as files or
as directories; a directory stands for the JavaScript files below it, except those in directories of
foreign or generated code.
-/

namespace CallAudit

namespace Forbidden

def loaded (p : Path) : Log.Entry :=
  ⟨.info, .concat ["Loaded forbidden function names from ", p.render]⟩

/-- The names that files list, and what the log is told before the first file that cannot be
read. -/
def load (fs : FileSystem) (codecs : Codecs) (charset : Text) (paths : List Path) :
    List Log.Entry × Except SetupFailure Forbidden :=
  let readings := paths.map fun p ↦ (p, fs.readText codecs charset p)
  let readable := readings.takeWhile fun r ↦ r.2.toOption.isSome
  let texts := readings.mapM fun r ↦ r.2.mapError (ReadError.toFailure .names r.1)
  (readable.map fun r ↦ loaded r.1, texts.map ofTexts)

end Forbidden

namespace Source

def load (fs : FileSystem) (codecs : Codecs) (charset : Text) (name? : Option Text)
    (path : Path) : Except SetupFailure Source :=
  match fs.readText codecs charset path with
  | .ok content => .ok ⟨(name?.filter fun name ↦ !name.isEmpty).getD path.render, content⟩
  | .error e => .error (e.toFailure .source path)

def excludedDirectories : List String :=
  ["node_modules", "bower_components", ".git", "dist", "build", "vendor"]

def isExcluded (part : Text) : Bool :=
  excludedDirectories.any fun name ↦ Text.ofString name == part

/-- What is kept of something that a search below a path comes upon.  Whether it is a file is looked
up first, and only then what it is called. -/
def keep (fs : FileSystem) (path : Path) (parts : List Text) : Except SetupFailure (List Path) :=
  let found := path.below parts
  match fs.isFile found with
  | .error cause => .error (.fatal (.unopened found cause))
  | .ok isFile => .ok (if isFile && found.isSupported && !parts.any isExcluded then [found] else [])

def search (fs : FileSystem) (path : Path) (directory : List FileName) :
    Except SetupFailure (List Path) :=
  (((fs.listing directory).mergeSort Path.partsPrecede).mapM (keep fs path)).map List.flatten

def expand (fs : FileSystem) (path : Path) : Except SetupFailure (List Path) :=
  match fs.find path with
  | .ok (.directory directory) => search fs path directory
  | .ok (.file _ _) => .ok [path]
  | .error cause =>
    .error (if cause.isAbsence then .reported (.missingSource path)
      else .fatal (.unopened path cause))

def collect (fs : FileSystem) (paths : List Path) : Except SetupFailure (List Path) :=
  (paths.mapM (expand fs)).map List.flatten

end Source

end CallAudit
