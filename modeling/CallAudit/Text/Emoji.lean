import CallAudit.Text.Blank
import CallAudit.Text.EmojiName
import CallAudit.Text.LowerCase

/-!
# Emoji codes

A name of an emoji between two colons is a code for it.  The name counts in any case, and an ending
`-emoji` or `-text` asks for the coloured or the plain form.  Codes of unknown names stand for
themselves.
-/

namespace CallAudit

namespace Emoji

/-- The endings of a code, with the selectors of the forms that they ask for. -/
def forms : List (String × Char) := [("-emoji", '\ufe0f'), ("-text", '\ufe0e')]

def parts (code : Text) : Text × Text :=
  match forms.find? fun form ↦ (Text.ofString form.1).isSuffixOf code with
  | some form => (code.take (code.length - (Text.ofString form.1).length), [.ofChar form.2])
  | none => (code, [])

def ofCode? (code : Text) : Option Text := (find? (parts code).1.lower).map (· ++ (parts code).2)

def isColon (c : CodePoint) : Bool := c == ':'

/-- The code at the beginning of a text that follows a colon; no blank is in it, and a colon ends
it. -/
def code? (t : Text) : Option Text :=
  let code := t.takeWhile fun c ↦ !isColon c && !c.isBlank
  if (t.drop code.length).head?.any isColon then some code else none

def replace : Text → Text
  | [] => []
  | c :: rest =>
    if isColon c then
      match code? rest with
      | some code => (ofCode? code).getD (c :: code ++ [c]) ++ replace (rest.drop (code.length + 1))
      | none => c :: replace rest
    else c :: replace rest
termination_by t => t.length
decreasing_by all_goals simp only [List.length_drop, List.length_cons]; omega

end Emoji

end CallAudit
