import CallAudit.Text.Surrogate

/-!
# String literals

The text that a JavaScript string literal denotes.  A backslash begins an escape: a numbered code
point, a letter for a control character, a line end that counts for nothing, or any other code point
for itself.
-/

namespace CallAudit

namespace StringLiteral

/-- The value of the first `count` code points, if there are as many and all are hexadecimal
digits. -/
def fixedHex? (count : Nat) (t : Text) : Option Nat :=
  if t.length < count then none
  else ((t.take count).mapM (CodePoint.digit? 16)).map fun ds ↦ ds.foldl (fun n d ↦ n * 16 + d) 0

/-- The value of hexadecimal digits in braces at the beginning of a text, and the number of code
points they take with the braces. -/
def bracedHex? : Text → Option (Nat × Nat)
  | [] => none
  | c :: rest =>
    let digits := rest.takeWhile fun d ↦ (d.digit? 16).isSome
    if c = '\x7b' ∧ digits ≠ [] ∧ rest[digits.length]? = some '\x7d' then
      (fixedHex? digits.length rest).map fun n ↦ (n, digits.length + 2)
    else none

/-- A line end: after a backslash it continues the literal on the next line. -/
def isLineEnd (c : CodePoint) : Bool :=
  c == .lineFeed || c == .carriageReturn || c.value == 0x2028 || c.value == 0x2029

def letter (c : CodePoint) : CodePoint :=
  if c = 'n' then .lineFeed
  else if c = 't' then ⟨0x09, by decide⟩
  else if c = 'r' then .carriageReturn
  else if c = 'b' then ⟨0x08, by decide⟩
  else if c = 'f' then ⟨0x0C, by decide⟩
  else if c = 'v' then ⟨0x0B, by decide⟩
  else c

/-- What `\u` denotes before `rest`, and how much of `rest` belongs to it.  A number in braces that
is no code point is left as it stands, without the backslash. -/
def unicodeEscape (rest : Text) : Text × Nat :=
  match bracedHex? rest with
  | some (n, count) => ((CodePoint.ofNat? n).elim ('u' :: rest.take count) fun c ↦ [c], count)
  | none =>
    match (fixedHex? 4 rest).bind CodePoint.ofNat? with
    | some c => ([c], 4)
    | none => (['u'], 0)

def byteEscape (rest : Text) : Text × Nat :=
  match (fixedHex? 2 rest).bind CodePoint.ofNat? with
  | some c => ([c], 2)
  | none => (['x'], 0)

/-- The octal digits, three at most, of an escape that begins with the digit `first`. -/
def octalEscape (first : Nat) (rest : Text) : Text × Nat :=
  let digits := ((rest.take 2).map (CodePoint.digit? 8)).takeWhile Option.isSome |>.filterMap id
  ((CodePoint.ofNat? (digits.foldl (fun n d ↦ n * 8 + d) first)).toList, digits.length)

/-- What a backslash with `c` after it denotes before `rest`, and how much of `rest` belongs to the
escape. -/
def escape (c : CodePoint) (rest : Text) : Text × Nat :=
  if c = 'u' then unicodeEscape rest
  else if c = 'x' then byteEscape rest
  else
    match c.digit? 8 with
    | some first => octalEscape first rest
    | none =>
      if c = .carriageReturn ∧ rest.head? = some .lineFeed then ([], 1)
      else if isLineEnd c then ([], 0)
      else ([letter c], 0)

/-- The text between the quotes with its escapes replaced; a backslash at the very end stays. -/
def unescape : Text → Text
  | [] => []
  | [c] => [c]
  | c :: d :: rest =>
    if c = .backslash then (escape d rest).1 ++ unescape (rest.drop (escape d rest).2)
    else c :: unescape (d :: rest)
termination_by t => t.length
decreasing_by all_goals simp only [List.length_drop, List.length_cons]; omega

def unquote (raw : Text) : Text :=
  if 2 ≤ raw.length ∧ raw.head? = raw.getLast? ∧
      (raw.head? = some .quotationMark ∨ raw.head? = some .apostrophe) then
    (raw.drop 1).dropLast
  else raw

/-- The text that a literal denotes; surrogate pairs that escapes spell are joined. -/
def value (raw : Text) : Text := Text.joinPairs (unescape (unquote raw))

end StringLiteral

end CallAudit
