import CallAudit.Charset.Utf8
import CallAudit.Concrete.Basic
import CallAudit.Text.Printable

/-!
# Syntax problems

Where the grammar could not make sense of a source.  A problem is reported for every missing node
and for every error node that is not inside another one, in the order of the source.
-/

namespace CallAudit

structure Problem where
  file : Text
  line : Nat
  column : Nat
  message : Text
  deriving DecidableEq

namespace Problem

/-- `FILE:LINE:COLUMN: MESSAGE`. -/
def render (p : Problem) : Text :=
  Text.concat [p.file, ":", Text.ofNat p.line, ":", Text.ofNat p.column, ": ", p.message]

def noLater (p q : Problem) : Bool :=
  decide (p.line < q.line) || (p.line == q.line && decide (p.column ≤ q.column))

end Problem

namespace Concrete

/-- The first line of the source that an error node spans, forty code points at most. -/
def snippet (t : Concrete) : Text :=
  ((Utf8.decodeLenient t.label.text).takeWhile fun c ↦ c != .lineFeed).take 40

def problemAt (file : Text) (t : Concrete) (message : Text) : Problem :=
  { file, line := t.line, column := t.label.column + 1, message }

def ownProblem? (file : Text) (t : Concrete) : Option Problem :=
  if t.label.missing then
    some (problemAt file t (Text.concat ["missing ", [.apostrophe], t.kind.name, [.apostrophe]]))
  else if t.kind = .error then
    some (problemAt file t (Text.concat ["syntax error near ", Text.quoted (snippet t)]))
  else none

/-- The children to search for further problems: those of a faulty node, but an error node speaks
for all below it. -/
def suspects (t : Concrete) : List Concrete :=
  if !t.label.missing && t.kind == .error then []
  else if t.label.faulty then t.children
  else []

theorem sizes_suspects (t : Concrete) : Tree.sizes t.suspects < t.size := by
  rw [Tree.size_eq]
  unfold suspects
  split
  · simp
  · split
    · exact Nat.lt_succ_self _
    · simp

def problemsFrom (file : Text) : List Concrete → List Problem
  | [] => []
  | t :: stack => (ownProblem? file t).toList ++ problemsFrom file (t.suspects ++ stack)
termination_by stack => Tree.sizes stack
decreasing_by
  have := sizes_suspects t
  simp only [Tree.sizes_append, Tree.sizes_cons]
  omega

/-- The problems of a source, in the order of their positions.  A faulty tree always has one. -/
def problems (file : Text) (root : Concrete) : List Problem :=
  if root.label.faulty then
    let found := problemsFrom file [root]
    let reported :=
      if found.isEmpty then [{ file, line := 1, column := 1, message := "syntax error" }] else found
    reported.mergeSort Problem.noLater
  else []

end Concrete

end CallAudit
