import CallAudit.Charset.Basic
import CallAudit.Files.Path
import CallAudit.Text.Printable

/-!
# Files

A tree of files and directories, and what reading one of them yields.  Absolute paths are read from
the root of the tree, and all others from the working directory.  Names and paths have a greatest
length, and permissions can be missing.  There are no links between directories.
-/

namespace CallAudit

/-- Files with their contents and further directories, by their names from the root on, and the
directory that relative paths are read from.  The directories on the way to them are there as well.
Files that are `unreadable` cannot be opened and such directories not listed; nothing can be reached
through directories that are `unsearchable`. -/
structure FileSystem where
  files : List (List FileName × List UInt8)
  directories : List (List FileName) := []
  workingDirectory : List FileName := []
  unreadable : List (List FileName) := []
  unsearchable : List (List FileName) := []

inductive OpenError where
  | notFound
  | notDirectory
  | isDirectory
  | denied
  | tooLong
  | unencodable
  | embeddedNull
  deriving DecidableEq, Repr

/-- Whether a path that is looked up in vain counts as leading nowhere.  A name that is too long and
a missing permission are faults of their own. -/
def OpenError.isAbsence : OpenError → Bool
  | denied | tooLong => false
  | _ => true

inductive Found where
  | file (names : List FileName) (content : List UInt8)
  | directory (names : List FileName)
  deriving DecidableEq

namespace FileSystem

def nameLimit : Nat := 255

def pathLimit : Nat := 4095

def stored (fs : FileSystem) : List (List FileName) :=
  fs.workingDirectory :: fs.directories ++ fs.files.map Prod.fst

def isDirectory (fs : FileSystem) (names : List FileName) : Bool :=
  names.isPrefixOf fs.workingDirectory || fs.directories.any (fun d ↦ names.isPrefixOf d) ||
    fs.files.any fun f ↦ names.isPrefixOf f.1 && f.1 != names

def entry? (fs : FileSystem) (names : List FileName) : Option Found :=
  match fs.files.lookup names with
  | some content => some (.file names content)
  | none => if fs.isDirectory names then some (.directory names) else none

/-- Follows one part of a path; the root is above itself. -/
def enter (fs : FileSystem) (here : Found) (part : Text) : Except OpenError Found :=
  match here with
  | .file _ _ => .error .notDirectory
  | .directory names =>
    if names ∈ fs.unsearchable then .error .denied
    else if part = (".." : Text) then .ok (.directory names.dropLast)
    else if nameLimit < (FileName.ofText part).length then .error .tooLong
    else (fs.entry? (names ++ [.ofText part])).elim (.error .notFound) .ok

def start (fs : FileSystem) (p : Path) : Except OpenError Found :=
  if p.slashes ≠ 0 then .ok (.directory [])
  else if fs.workingDirectory ∈ fs.unsearchable then .error .denied
  else .ok (.directory fs.workingDirectory)

def find (fs : FileSystem) (p : Path) : Except OpenError Found :=
  if p.parts.any fun part ↦ part.any CodePoint.isUnencodable then .error .unencodable
  else if p.parts.any fun part ↦ part.any fun c ↦ c.value == 0 then .error .embeddedNull
  else if pathLimit < (FileName.ofText p.render).length then .error .tooLong
  else do p.parts.foldlM fs.enter (← fs.start p)

def isFile (fs : FileSystem) (p : Path) : Except OpenError Bool :=
  match fs.find p with
  | .ok (.file _ _) => .ok true
  | .ok (.directory _) => .ok false
  | .error cause => if cause.isAbsence then .ok false else .error cause

def below (fs : FileSystem) (directory : List FileName) : List (List FileName) :=
  let rests := fs.stored.filterMap fun names ↦
    if directory.isPrefixOf names then some (names.drop directory.length) else none
  (rests.flatMap fun rest ↦ (List.range rest.length).map fun n ↦ rest.take (n + 1)).eraseDups

/-- Whether a search of a directory comes upon something below it: the directories on the way can be
listed and, except for the last, searched. -/
def isListed (fs : FileSystem) (directory names : List FileName) : Bool :=
  (List.range names.length).all fun n ↦
    let way := directory ++ names.take n
    decide (way ∉ fs.unreadable) && (n + 1 == names.length || decide (way ∉ fs.unsearchable))

def listing (fs : FileSystem) (directory : List FileName) : List (List Text) :=
  ((fs.below directory).filter (fs.isListed directory)).map fun names ↦ names.map FileName.text

end FileSystem

/-- Why the text of a file cannot be read.  The name of its charset is judged first. -/
inductive ReadError where
  | unopened (path : Path) (cause : OpenError)
  | unencodableCharset (name : Text)
  | charsetWithNull
  | noCodec (name : Text) (cause : Codecs.Gap)
  | undecoded (cause : Charset.Error)
  deriving DecidableEq

namespace ReadError

/-- The message on the surrogates that keep a text from being encoded: from the first refused one
on, as far as surrogates follow. -/
def surrogateMessage (isRefused : CodePoint → Bool) (t : Text) : Text :=
  let before := t.takeWhile fun c ↦ !isRefused c
  let refused := (t.drop before.length).takeWhile fun c ↦ decide c.IsSurrogate
  let place : Text :=
    if refused.length = 1 then
      .concat ["character ", Text.quoted refused, " in position ", Text.ofNat before.length]
    else
      .concat ["characters in position ", Text.ofNat before.length, "-",
        Text.ofNat (before.length + refused.length - 1)]
  .concat ["'utf-8' codec can't encode ", place, ": surrogates not allowed"]

def message : ReadError → Text
  | unopened path .notFound => .concat ["[Errno 2] No such file or directory: ", path.render.quoted]
  | unopened path .denied => .concat ["[Errno 13] Permission denied: ", path.render.quoted]
  | unopened path .notDirectory => .concat ["[Errno 20] Not a directory: ", path.render.quoted]
  | unopened path .isDirectory => .concat ["[Errno 21] Is a directory: ", path.render.quoted]
  | unopened path .tooLong => .concat ["[Errno 36] File name too long: ", path.render.quoted]
  | unopened path .unencodable => surrogateMessage CodePoint.isUnencodable path.render
  | unopened _ .embeddedNull => "embedded null byte"
  | unencodableCharset name => surrogateMessage (fun c ↦ decide c.IsSurrogate) name
  | charsetWithNull => "embedded null character"
  | noCodec name cause => cause.message name
  | undecoded cause => cause.message

end ReadError

namespace FileSystem

def readBytes (fs : FileSystem) (p : Path) : Except ReadError (List UInt8) :=
  match fs.find p with
  | .error cause => .error (.unopened p cause)
  | .ok (.file names content) =>
    if names ∈ fs.unreadable then .error (.unopened p .denied) else .ok content
  | .ok (.directory names) =>
    .error (.unopened p (if names ∈ fs.unreadable then .denied else .isDirectory))

/-- The text of a file in a charset of a given name, with uniform line ends.  The name must be one
that can be encoded; the file is opened before the charset is looked up. -/
def readText (fs : FileSystem) (codecs : Codecs) (charset : Text) (p : Path) :
    Except ReadError Text := do
  if charset.hasSurrogate then throw (.unencodableCharset charset)
  if charset.any fun c ↦ c.value == 0 then throw .charsetWithNull
  let bytes ← fs.readBytes p
  let codec ← (codecs charset).mapError (.noCodec charset)
  ((codec bytes).map Text.unifyNewlines).mapError .undecoded

end FileSystem

end CallAudit
