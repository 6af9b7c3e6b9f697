import CallAudit.Node.Basic
import CallAudit.Text.Surrogate

/-!
# Constant texts

Expressions whose text is known without running the program: string and number literals, and sums of
those.  Anything else has no constant text, which is an answer and not an error.
-/

namespace CallAudit

namespace Node

variable {ι : Type}

def literalText (n : Node ι) : Except Malformed (Option Text) :=
  match n.kind with
  | .string => n.string.map some
  | .number =>
    match n.label.number? with
    | some x => .ok (some x.canonical)
    | none => .error (.of .noNumber n.label)
  | _ => .ok none

/-- The constant text of an expression with `after` behind it.  A sum is followed down its left
operands, the right ones being put in front of what is known; an operand that is a sum itself has
its surrogate pairs joined. -/
def constantOnto : Node ι → Text → Except Malformed (Option Text)
  | .node m [left, right], after =>
    if m.kind = .add then do
      match ← constantOnto right [] with
      | none => pure none
      | some t => constantOnto left ((if kind right = .add then t.joinPairs else t) ++ after)
    else do
      let own ← literalText (.node m [left, right])
      pure (own.map (· ++ after))
  | .node m children, after =>
    if m.kind = .add then .error (.of .operandCount m)
    else do
      let own ← literalText (.node m children)
      pure (own.map (· ++ after))

def constantText (n : Node ι) : Except Malformed (Option Text) := do
  let t ← constantOnto n []
  pure (t.map Text.joinPairs)

/-- The name that the key of a computed member access denotes.  Only keys that are strings count: a
string literal or a sum, but not a bare number. -/
def computedKey (n : Node ι) : Except Malformed (Option Text) :=
  match n.kind, n.children with
  | .getElem, [_, key] =>
    if kind key = .string ∨ kind key = .add then constantText key else .ok none
  | _, _ => .error (.of .notComputedMember n.label)

end Node

end CallAudit
