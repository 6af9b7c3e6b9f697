import CallAudit.Terminal
import CallAudit.Text.Emoji

/-!
# Markup

Texts for the terminal may hold tags in square brackets.  A tag begins with a small letter or one of
`#`, `/` and `@`, and holds no opening bracket.  A backslash before a tag makes it plain text; two
backslashes stand for one there.  Before any other bracket a backslash is dropped when the text is
shown.
-/

namespace CallAudit

namespace Markup

def openingBracket : CodePoint := .ofChar '['

def closingBracket : CodePoint := .ofChar ']'

def opensTag (c : CodePoint) : Bool := c.within 0x61 0x7A || c == '#' || c == '/' || c == '@'

def tag? : Text → Option Text
  | bracket :: c :: rest =>
    if bracket = openingBracket ∧ opensTag c then
      let inner := rest.takeWhile fun d ↦ d != openingBracket && d != closingBracket
      if (rest.drop inner.length).head? = some closingBracket then
        some (bracket :: c :: inner ++ [closingBracket])
      else none
    else none
  | _ => none

inductive Piece where
  | plain (t : Text)
  | tag (backslashes : Nat) (t : Text)
  deriving DecidableEq

def trailingBackslashes (t : Text) : Nat := (t.reverse.takeWhile fun c ↦ c == .backslash).length

/-- The pieces of the rest of a text, `plain` being what stands between the last tag and it. -/
def piecesFrom (plain : Text) : Text → List Piece
  | [] => [.plain plain]
  | c :: rest =>
    match tag? (c :: rest) with
    | some tag =>
      let backslashes := trailingBackslashes plain
      .plain (plain.take (plain.length - backslashes)) :: .tag backslashes tag ::
        piecesFrom [] (rest.drop (tag.length - 1))
    | none => piecesFrom (plain ++ [c]) rest
termination_by t => t.length
decreasing_by all_goals simp only [List.length_drop, List.length_cons]; omega

def pieces (t : Text) : List Piece := piecesFrom [] t

def backslashes (n : Nat) : Text := List.replicate n .backslash

def Piece.escape : Piece → Text
  | plain t => t
  | tag n t => backslashes (2 * n + 1) ++ t

/-- A text in which no tag is left.  A single backslash at the end is doubled, so that it cannot act
on what follows. -/
def escape (t : Text) : Text :=
  let escaped := (pieces t).flatMap Piece.escape
  if trailingBackslashes escaped = 1 then escaped ++ [.backslash] else escaped

def unescapeBrackets : Text → Text
  | c :: d :: rest =>
    if c = .backslash ∧ d = openingBracket then d :: unescapeBrackets rest
    else c :: unescapeBrackets (d :: rest)
  | t => t

/-- What a piece shows; a tag that is none of the text shows nothing. -/
def Piece.show : Piece → Text
  | plain t => Emoji.replace (unescapeBrackets t)
  | tag n t => backslashes (n / 2) ++ if n % 2 = 1 then Emoji.replace t else []

/-- Controls that a terminal would act upon: bell, backspace, vertical tab, form feed and carriage
return. -/
def isControl (c : CodePoint) : Bool := c.within 0x07 0x08 || c.within 0x0B 0x0D

def visible (t : Text) : Text := t.filter fun c ↦ !isControl c

def render (t : Text) : Text := visible ((pieces t).flatMap Piece.show)

def renderPlain (t : Text) : Text := visible (Emoji.replace t)

def display : Display := { escape, render, renderPlain }

end Markup

end CallAudit
