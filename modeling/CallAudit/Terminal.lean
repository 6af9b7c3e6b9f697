import CallAudit.Text.LowerCase
import CallAudit.Text.Surrogate

/-!
# Terminals

No terminal shows a surrogate, so surrogates are written as escapes.  Terminals of another encoding
than UTF-8 get plain characters in place of symbols.  How texts with markup and without it are shown
is up to a display.
-/

namespace CallAudit

/-- How texts are shown: with their markup acted upon or as they stand, and how markup in a text is
escaped. -/
structure Display where
  escape : Text → Text
  render : Text → Text
  renderPlain : Text → Text

structure Terminal where
  encoding : Text
  deriving DecidableEq

def Text.escapeSurrogates (t : Text) : Text :=
  t.flatMap fun c ↦ if c.IsSurrogate then Text.concat ["\\u", Text.hex 4 c.value] else [c]

def Text.replaceAll (c : CodePoint) (replacement t : Text) : Text :=
  t.flatMap fun d ↦ if d = c then replacement else [d]

namespace Terminal

/-- The terminal whose encoding is reported, by the output or else by the locale. -/
def ofReported (output? locale? : Option Text) : Terminal :=
  let reported? (name? : Option Text) := name?.filter fun name ↦ !name.isEmpty
  ⟨Text.lower (((reported? output?).or (reported? locale?)).getD "ascii")⟩

def isUtf8 (terminal : Terminal) : Bool :=
  let name := terminal.encoding.map fun c : CodePoint ↦ if c = '_' then CodePoint.ofChar '-' else c
  name == ("utf-8" : Text) || name == ("utf8" : Text)

def symbols : List (Char × String) :=
  [('✓', "[OK]"), ('✔', "[OK]"), ('✗', "[FAIL]"), ('✘', "[FAIL]"), ('⚠', "[WARN]"), ('→', "->"),
    ('←', "<-"), ('⇒', "=>"), ('│', "|"), ('─', "-"), ('└', "+"), ('├', "+"), ('…', "..."),
    ('•', "*")]

/-- Replaces the symbols of a table, one after the other, each throughout the text that the ones
before it left. -/
def replaceSymbols (table : List (Char × String)) (t : Text) : Text :=
  table.foldl (fun t s ↦ Text.replaceAll s.1 s.2 t) t

/-- A text as a terminal can show it, with the symbols of a table replaced if it does not show all
of Unicode. -/
def sanitizeBy (table : List (Char × String)) (terminal : Terminal) (t : Text) : Text :=
  if terminal.isUtf8 then t.escapeSurrogates else replaceSymbols table t.escapeSurrogates

def sanitize (terminal : Terminal) (t : Text) : Text := terminal.sanitizeBy symbols t

def print (terminal : Terminal) (display : Display) (t : Text) : Text :=
  display.renderPlain (terminal.sanitize t)

def printMarkup (terminal : Terminal) (display : Display) (t : Text) : Text :=
  display.render (terminal.sanitize t)

end Terminal

end CallAudit
