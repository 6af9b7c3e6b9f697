import CallAudit.Text.CodePoint

/-!
# Blanks and line boundaries

Which code points count as white space around a name or a numeral, and where a text is cut into
lines.
-/

namespace CallAudit

namespace CodePoint

/-- White space: the code points that trimming removes. -/
def isBlank (c : CodePoint) : Bool :=
  c.within 0x09 0x0D || c.within 0x1C 0x20 || c.value == 0x85 || c.value == 0xA0 ||
    c.value == 0x1680 ||
    c.within 0x2000 0x200A || c.value == 0x2028 || c.value == 0x2029 || c.value == 0x202F ||
      c.value == 0x205F ||
    c.value == 0x3000

/-- White space that may surround a numeral: the information separators `U+001C .. U+001F` are not
among it. -/
def isNumeralBlank (c : CodePoint) : Bool := c.isBlank && !c.within 0x1C 0x1F

def isLineBoundary (c : CodePoint) : Bool :=
  c.within 0x0A 0x0D || c.within 0x1C 0x1E || c.value == 0x85 || c.value == 0x2028 ||
    c.value == 0x2029

end CodePoint

namespace Text

def trimEndBy (p : CodePoint → Bool) (t : Text) : Text := (t.reverse.dropWhile p).reverse

def trimBy (p : CodePoint → Bool) (t : Text) : Text := trimEndBy p (t.dropWhile p)

def trim (t : Text) : Text := t.trimBy CodePoint.isBlank

/-- The lines of a text without their boundaries, `line` being what was read of the current one.  A
carriage return with the line feed after it is one boundary, and a boundary at the end opens no
further line. -/
def linesFrom (line : Text) : Text → List Text
  | [] => if line.isEmpty then [] else [line.reverse]
  | c :: rest =>
    if c.isLineBoundary then
      match rest with
      | d :: rest' =>
        if c = .carriageReturn ∧ d = .lineFeed then line.reverse :: linesFrom [] rest'
        else line.reverse :: linesFrom [] (d :: rest')
      | [] => [line.reverse]
    else linesFrom (c :: line) rest

def lines (t : Text) : List Text := linesFrom [] t

/-- Line ends made uniform: a carriage return, with or without a line feed after it, becomes a line
feed. -/
def unifyNewlines : Text → Text
  | [] => []
  | [c] => if c = .carriageReturn then [.lineFeed] else [c]
  | c :: d :: rest =>
    if c = .carriageReturn then
      if d = .lineFeed then .lineFeed :: unifyNewlines rest
      else .lineFeed :: unifyNewlines (d :: rest)
    else c :: unifyNewlines (d :: rest)

end Text

end CallAudit
