import CallAudit.Text.Printable

/-!
# Call registries

How often each name was called, in the order in which the names were first seen.
-/

namespace CallAudit

/-- Names with their counts, in the order of first sight. -/
structure Registry where
  entries : List (Text × Int)
  deriving DecidableEq

namespace Registry

def empty : Registry := ⟨[]⟩

instance : Inhabited Registry := ⟨empty⟩

/-- Adds an amount to the count of a name; a new name comes last. -/
def addTo (name : Text) (amount : Int) : List (Text × Int) → List (Text × Int)
  | [] => [(name, amount)]
  | (n, count) :: rest =>
    if n = name then (n, count + amount) :: rest else (n, count) :: addTo name amount rest

def add (r : Registry) (name : Text) (amount : Int) : Registry := ⟨addTo name amount r.entries⟩

def record (r : Registry) (name : Text) : Registry := r.add name 1

def count? (r : Registry) (name : Text) : Option Int := r.entries.lookup name

def contains (r : Registry) (name : Text) : Bool := (r.count? name).isSome

/-- Adds an amount to the count of a name that was seen; other names are not touched. -/
def increase (r : Registry) (name : Text) (amount : Int) : Registry :=
  if r.contains name then r.add name amount else r

/-- Adds the counts of another registry; names that are new come last, in the order of the other. -/
def merge (r other : Registry) : Registry :=
  other.entries.foldl (fun r entry ↦ r.add entry.1 entry.2) r

def mergeAll (rs : List Registry) : Registry := rs.foldl merge empty

def size (r : Registry) : Nat := r.entries.length

def render (r : Registry) : Text :=
  let entry (e : Text × Int) : Text := Text.concat [e.1.quoted, ": ", Text.ofInt e.2]
  Text.concat ["CallRegistry(\x7b", Text.join ", " (r.entries.map entry), "\x7d)"]

end Registry

end CallAudit
