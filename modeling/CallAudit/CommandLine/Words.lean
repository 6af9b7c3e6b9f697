import CallAudit.Text.CodePoint

/-!
# Words of a command line

A text is divided into words at blanks.  Quotes keep blanks together: between apostrophes everything
stands for itself, between quotation marks a backslash takes away the meaning of a quotation mark or
a backslash, and elsewhere of any code point after it.  A pair of quotes makes a word even if
nothing is between them.
-/

namespace CallAudit

namespace Words

inductive Error where
  | noClosingQuotation
  | noEscapedCharacter
  deriving DecidableEq, Repr

def Error.message : Error → String
  | noClosingQuotation => "No closing quotation"
  | noEscapedCharacter => "No escaped character"

/-- Where reading stands: between words, within a word, behind an opening quote, or behind a
backslash, which may be inside of quotes. -/
inductive State where
  | between
  | word
  | quoted (quote : CodePoint)
  | escaped (quote? : Option CodePoint)
  deriving DecidableEq, Repr

def isBlank (c : CodePoint) : Bool :=
  c == ' ' || c == '\t' || c == .carriageReturn || c == .lineFeed

def isQuote (c : CodePoint) : Bool := c == .apostrophe || c == .quotationMark

/-- The words of the rest of a text, `word` being what was read of the current one. -/
def splitFrom (state : State) (word : Text) : Text → Except Error (List Text)
  | [] =>
    match state with
    | .between => .ok []
    | .word => .ok [word]
    | .quoted _ => .error .noClosingQuotation
    | .escaped _ => .error .noEscapedCharacter
  | c :: rest =>
    match state with
    | .quoted quote =>
      if c = quote then splitFrom .word word rest
      else if c = .backslash ∧ quote = .quotationMark then
        splitFrom (.escaped (some quote)) word rest
      else splitFrom (.quoted quote) (word ++ [c]) rest
    | .escaped none => splitFrom .word (word ++ [c]) rest
    | .escaped (some quote) =>
      let kept := if c = .backslash ∨ c = quote then [c] else [.backslash, c]
      splitFrom (.quoted quote) (word ++ kept) rest
    | .between =>
      if isBlank c then splitFrom .between [] rest
      else if c = .backslash then splitFrom (.escaped none) [] rest
      else if isQuote c then splitFrom (.quoted c) [] rest
      else splitFrom .word [c] rest
    | .word =>
      if isBlank c then (splitFrom .between [] rest).map (word :: ·)
      else if c = .backslash then splitFrom (.escaped none) word rest
      else if isQuote c then splitFrom (.quoted c) word rest
      else splitFrom .word (word ++ [c]) rest

def split (t : Text) : Except Error (List Text) := splitFrom .between [] t

end Words

end CallAudit
