import CallAudit.Audit.Registry
import CallAudit.Node.Basic
import CallAudit.Text.Blank

/-!
# Runs

What an audit has found so far: the calls, those of forbidden names among them, and the variables
and functions that were declared.  Forbidden names are given without surrounding white space; files
of names have one name in a line, and blank lines and lines that begin with `#` say nothing.
-/

namespace CallAudit

/-! ### Forbidden names -/

structure Forbidden where
  names : List Text
  deriving DecidableEq

namespace Forbidden

/-- The set of some names, trimmed; blank ones are left out. -/
def ofNames (names : List Text) : Forbidden :=
  ⟨((names.map Text.trim).filter fun name ↦ !name.isEmpty).eraseDups⟩

def listed (t : Text) : List Text :=
  (t.lines.map Text.trim).filter fun name ↦ !name.isEmpty && name.head? != some '#'

def ofTexts (texts : List Text) : Forbidden := ofNames (texts.flatMap listed)

def contains (f : Forbidden) (name : Text) : Bool := decide (name ∈ f.names)

def sorted (f : Forbidden) : List Text := f.names.mergeSort Text.precedes

def size (f : Forbidden) : Nat := f.names.length

def render (f : Forbidden) : Text :=
  Text.concat ["ForbiddenSet([", Text.join ", " (f.sorted.map Text.quoted), "])"]

end Forbidden

/-! ### What is found -/

structure Site where
  file : Text
  line : Int
  deriving DecidableEq

def Node.Mark.position {ι : Type} (m : Node.Mark ι) : Site := ⟨m.file, m.line⟩

/-- A name that is called or declared on a line. -/
structure Sighting where
  name : Text
  site : Site
  deriving DecidableEq

namespace Sighting

def violation (s : Sighting) : Text :=
  Text.concat [s.site.file, ": line ", Text.ofInt s.site.line, ", calling forbidden function ",
    s.name]

end Sighting

/-- The state of an audit.  `calls` are all calls in the order in which they were registered,
`violations` those of forbidden names, and `declared` the variables.  With `dedupe`, `seen` are the
violations that were reported, which are not reported again. -/
structure Run (ι : Type) where
  forbidden : Forbidden
  dedupe : Bool
  registry : Registry
  calls : List Sighting
  violations : List Sighting
  seen : List Sighting
  declared : List (Node.Mark ι)
  functions : List Sighting

namespace Run

variable {ι : Type}

def start (forbidden : Forbidden) (dedupe : Bool) : Run ι :=
  { forbidden, dedupe, registry := .empty, calls := [], violations := [], seen := [],
    declared := [], functions := [] }

def newViolation? (r : Run ι) (call : Sighting) : Option Sighting :=
  if r.forbidden.contains call.name && !(r.dedupe && decide (call ∈ r.seen)) then some call
  else none

def register (r : Run ι) (call : Sighting) : Run ι :=
  { r with
    registry := r.registry.record call.name
    calls := r.calls ++ [call]
    violations := r.violations ++ (r.newViolation? call).toList
    seen := if r.dedupe then r.seen ++ (r.newViolation? call).toList else r.seen }

def registerAll (r : Run ι) (calls : List Sighting) : Run ι := calls.foldl register r

def declareVariable (r : Run ι) (m : Node.Mark ι) : Run ι :=
  { r with declared := r.declared ++ [m] }

def declareFunction (r : Run ι) (f : Sighting) : Run ι := { r with functions := r.functions ++ [f] }

end Run

end CallAudit
