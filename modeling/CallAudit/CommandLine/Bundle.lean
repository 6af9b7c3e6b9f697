import CallAudit.CommandLine.Outcome

/-!
# Bundles

A bundle is a text that describes what a command works on, one thing in a line.  The words of a line
are divided like those of a command line.

* `directory PATH` is a directory, and `file PATH BYTES` a file, with its bytes in hexadecimal;
* `working PATH` is the working directory, which is the root if there is no such line;
* `unreadable PATH` and `unsearchable PATH` say which permissions are missing;
* `tree BYTES` begins the concrete tree of the source with these bytes, and
  `node DEPTH KIND FIELD FLAGS START STOP ROW COLUMN` is a row of its listing.  The field is a dash
  if there is none; of the flags, 1 stands for a named node, 2 for a missing one, and 4 for a faulty
  one.

All paths are read from the root.
-/

namespace CallAudit

structure Bundle where
  files : FileSystem
  trees : List (List UInt8 × List Concrete.Row)

namespace Bundle

def empty : Bundle := ⟨{ files := [] }, []⟩

def natural? (t : Text) : Option Nat := (Numeral.integer? t).bind Int.toNat?

def bytes? : Text → Option (List UInt8)
  | [] => some []
  | [_] => none
  | c :: d :: rest => do
    let high ← c.digit? 16
    let low ← d.digit? 16
    let bytes ← bytes? rest
    pure (UInt8.ofNat (16 * high + low) :: bytes)

def row? (source : List UInt8) : List Text → Option Concrete.Row
  | [depth, kind, field, flags, start, stop, row, column] => do
    let flags ← natural? flags
    let kind ← kind.toString?
    let field ← field.toString?
    pure
      { depth := ← natural? depth
        mark :=
          { kind := .ofName kind
            field? := if field = "-" then none else some (.ofName field)
            named := flags % 2 = 1
            missing := flags / 2 % 2 = 1
            faulty := flags / 4 % 2 = 1
            text := Concrete.slice source (← natural? start) (← natural? stop)
            row := ← natural? row
            column := ← natural? column } }
  | _ => none

def addPath? (fs : FileSystem) (word : Text) (path : Path) : Option FileSystem :=
  if word = ("directory" : Text) then some { fs with directories := fs.directories ++ [path.names] }
  else if word = ("working" : Text) then some { fs with workingDirectory := path.names }
  else if word = ("unreadable" : Text) then
    some { fs with unreadable := fs.unreadable ++ [path.names] }
  else if word = ("unsearchable" : Text) then
    some { fs with unsearchable := fs.unsearchable ++ [path.names] }
  else none

/-- Adds what the words of a line describe; the tree that was begun last is the first one. -/
def add? (b : Bundle) : List Text → Option Bundle
  | [] => some b
  | word :: rest =>
    if word = ("file" : Text) then
      match rest with
      | [path, content] => (bytes? content).map fun bytes ↦
          { b with files.files := b.files.files ++ [((Path.parse path).names, bytes)] }
      | _ => none
    else if word = ("tree" : Text) then
      match rest with
      | [source] => (bytes? source).map fun bytes ↦ { b with trees := (bytes, []) :: b.trees }
      | _ => none
    else if word = ("node" : Text) then
      match b.trees with
      | (source, rows) :: trees => (row? source rest).map fun row ↦
          { b with trees := (source, rows ++ [row]) :: trees }
      | [] => none
    else
      match rest with
      | [path] => (addPath? b.files word (.parse path)).map fun files ↦ { b with files }
      | _ => none

def parse? (t : Text) : Option Bundle :=
  (t.splitAt .lineFeed).foldlM (fun b line ↦ (Words.split line).toOption.bind b.add?) empty

/-- The concrete tree of a source that has none in a bundle: a program of nothing. -/
def blank : Concrete := .node ⟨.program, none, true, false, false, [], 0, 0⟩ []

def grammar (b : Bundle) : Grammar := fun source ↦
  ((Utf8.encode? source).bind fun bytes ↦ (b.trees.lookup bytes).bind Concrete.ofRows?).getD blank

/-- What a command works on that is given a bundle and an environment, on a Unicode terminal. -/
def workplace (b : Bundle) (environment : Environment) : Workplace where
  files := b.files
  environment
  grammar := b.grammar
  terminal := .ofReported (some "utf-8") none
  streams := .unicode

end Bundle

namespace Print

/-- The lines of something printed; the cells of a table are divided by tabs. -/
def lines : Print → List Text
  | line t => [t]
  | table title columns rows =>
    Text.ofString title :: (columns.map Text.ofString :: rows).map (Text.join "\t")

end Print

namespace Stop

def message : Stop → Text
  | unread fault => fault.message
  | unset name => .concat ["variable cannot be set: ", name]
  | unaudited .unencodable => "source text cannot be encoded"
  | unaudited (.undecodable fault) => fault.message
  | unaudited (.unresolvable (.malformed e)) => e.message
  | unaudited (.unresolvable .noProperty) => "a property access has no property"
  | unaudited .nothing => "nothing to walk"
  | unprinted _ _ => "what is printed cannot be encoded"

end Stop

end CallAudit
