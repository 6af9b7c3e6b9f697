import CallAudit.Setup.Error

/-!
# Flag files

A file can hold arguments of the command line.  They take the place of the option that names the
file, and cannot name a further file themselves.
-/

namespace CallAudit

namespace FlagFile

/-- Whether an argument names a flag file, or announces that the next one does. -/
def isOption (arg : Text) : Bool :=
  arg == ("--flagfile" : Text) || (arg.after? "--flagfile=").isSome

def read (fs : FileSystem) (codecs : Codecs) (charset : Text) (path : Path) :
    Except SetupError (List Text) := do
  let t ← (fs.readText codecs charset path).mapError (.unreadable .flags path)
  let words ← (Words.split t).mapError (.unsplittable path)
  if words.any isOption then .error .nestedFlagFile else pure words

/-- Puts the arguments in flag files in place of the options that name the files. -/
def expand (fs : FileSystem) (codecs : Codecs) (charset : Text) :
    List Text → Except SetupError (List Text)
  | [] => .ok []
  | arg :: rest =>
    if arg = ("--flagfile" : Text) then
      match rest with
      | [] => .error .unnamedFlagFile
      | file :: rest => do
        let words ← read fs codecs charset (.parse file)
        pure (words ++ (← expand fs codecs charset rest))
    else
      match arg.after? "--flagfile=" with
      | some file => do
        let words ← read fs codecs charset (.parse file)
        pure (words ++ (← expand fs codecs charset rest))
      | none => (expand fs codecs charset rest).map (arg :: ·)

/-- The first charset that the arguments name, wherever it stands. -/
def charset? : List Text → Option Text
  | [] => none
  | arg :: rest =>
    if arg = ("--charset" : Text) ∧ rest ≠ [] then rest.head?
    else (arg.after? "--charset=").or (charset? rest)

end FlagFile

end CallAudit
