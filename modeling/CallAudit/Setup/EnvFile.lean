import CallAudit.Text.Blank

/-!
# Files of variables

What a file of variables sets is up to a format.  In the format of this module, a line `KEY=value`
sets a variable.  Blanks may stand around the equals sign, `export` before the key, and a comment
behind the value.  A value in quotes is taken up to the closing quote, over line ends if need be; a
backslash keeps the next code point from closing it, and between quotation marks backslashes write
control characters.  Lines of another shape are passed over.  In a value, the name of a variable in
braces behind a dollar sign stands for the value of the variable; `:-` behind the name begins what
stands for a variable that there is not.
-/

namespace CallAudit

/-- What a text sets, given the values of the variables that there are: names in their order, each
with a value if it gets one. -/
abbrev VariableFormat := (Text → Option Text) → Text → List (Text × Option Text)

namespace EnvFile

def isInlineBlank (c : CodePoint) : Bool := c.isBlank && c != .lineFeed && c != .carriageReturn

def skipBlanks (t : Text) : Text := t.dropWhile isInlineBlank

def lineEnd (t : Text) : Text := t.dropWhile fun c ↦ c != .lineFeed

def nextLine (t : Text) : Text := (lineEnd t).drop 1

/-- A text without its comment, which begins with `#` behind blanks, and without blanks at its
end. -/
def uncommented (t : Text) : Text := Text.trimEndBy CodePoint.isBlank (cut t)
where
  cut : Text → Text
    | [] => []
    | c :: rest =>
      if c.isBlank && (rest.dropWhile CodePoint.isBlank).head? == some (CodePoint.ofChar '#') then
        []
      else c :: cut rest

/-- A text up to its closing quote, and what follows; `escaped` says whether a backslash takes the
first code point along. -/
def upToQuote? (quote : CodePoint) (escaped : Bool) : Text → Option (Text × Text)
  | [] => none
  | c :: rest =>
    if c = quote ∧ !escaped then some ([], rest)
    else (upToQuote? quote (!escaped && decide (c = .backslash)) rest).map fun (t, left) ↦
      (c :: t, left)

def control? (c : CodePoint) : Option CodePoint :=
  if c = 'a' then some (CodePoint.ofChar '\x07')
  else if c = 'b' then some (CodePoint.ofChar '\x08')
  else if c = 'f' then some (CodePoint.ofChar '\x0c')
  else if c = 'n' then some .lineFeed
  else if c = 'r' then some .carriageReturn
  else if c = 't' then some (CodePoint.ofChar '\t')
  else if c = 'v' then some (CodePoint.ofChar '\x0b')
  else none

def escape? (quote c : CodePoint) : Option CodePoint :=
  if c = .backslash ∨ c = .apostrophe then some c
  else if quote = .quotationMark then if c = .quotationMark then some c else control? c
  else none

def unescape (quote : CodePoint) : Text → Text
  | c :: d :: rest =>
    if c = .backslash then
      match escape? quote d with
      | some e => e :: unescape quote rest
      | none => c :: unescape quote (d :: rest)
    else c :: unescape quote (d :: rest)
  | t => t

/-- The key at the beginning of a line and what follows it; a comment has no key. -/
def key? : Text → Option (Option Text × Text)
  | [] => none
  | c :: rest =>
    if c = '#' then some (none, c :: rest)
    else if c = .apostrophe then
      let key := rest.takeWhile fun d ↦ d != .apostrophe
      match rest.drop key.length with
      | _ :: left => if key = [] then none else some (some key, left)
      | [] => none
    else
      let key := (c :: rest).takeWhile fun d : CodePoint ↦ d != '=' && d != '#' && !d.isBlank
      if key = [] then none else some (some key, (c :: rest).drop key.length)

/-- The value behind an equals sign and what follows it.  Blanks before a comment belong to the
comment also if there is no value before them. -/
def value? (t : Text) : Option (Text × Text) :=
  match skipBlanks t with
  | [] => some ([], [])
  | c :: rest =>
    if c = .apostrophe ∨ c = .quotationMark then
      (upToQuote? c false rest).map fun (raw, left) ↦ (unescape c raw, left)
    else some ((uncommented (t.takeWhile fun d ↦ d != .lineFeed)).dropWhile CodePoint.isBlank,
      lineEnd t)

def assigned? : Text → Option (Option Text × Text)
  | [] => some (none, [])
  | c :: rest =>
    if c = '=' then (value? rest).map fun (value, left) ↦ (some value, left)
    else some (none, c :: rest)

def skipExport (t : Text) : Text :=
  match Text.after? t "export" with
  | some (c :: rest) => if isInlineBlank c then skipBlanks rest else t
  | _ => t

def skipComment (t : Text) : Text :=
  let rest := skipBlanks t
  if rest.head? = some (CodePoint.ofChar '#') then lineEnd rest else t

abbrev Entry := Option (Text × Option Text)

def readEntry (t : Text) : Entry × Text :=
  let t := skipExport t
  match key? t with
  | none => (none, nextLine t)
  | some (key?, t) =>
    let t := skipBlanks t
    match assigned? t with
    | none => (none, nextLine t)
    | some (value?, t) =>
      let t := skipComment t
      match skipBlanks t with
      | [] => (key?.map fun key ↦ (key, value?), [])
      | c :: rest =>
        if c = .lineFeed then (key?.map fun key ↦ (key, value?), rest) else (none, nextLine t)

/-- The entries of a text; every entry takes at least one code point. -/
def entries (t : Text) : List (Text × Option Text) :=
  match _h : t.dropWhile CodePoint.isBlank with
  | [] => []
  | c :: rest =>
    let (entry, left) := readEntry (c :: rest)
    if _shorter : left.length < t.length then entry.toList ++ entries left else entry.toList
termination_by t.length

def byteOrderMark : CodePoint := .ofChar '\ufeff'

def parse (t : Text) : List (Text × Option Text) :=
  entries (if t.head? = some byteOrderMark then t.drop 1 else t)

/-! ### References to variables -/

def closingBrace : CodePoint := .ofChar '\x7d'

/-- The name of a reference behind its opening brace, what stands for a variable that there is not,
and what follows the closing brace. -/
def reference? (t : Text) : Option (Text × Text × Text) :=
  let name := t.takeWhile fun c : CodePoint ↦ c != closingBrace && c != ':'
  let rest := t.drop name.length
  match Text.after? rest ":-" with
  | some rest =>
    let fallback := rest.takeWhile fun c ↦ c != closingBrace
    if rest.length = fallback.length then none
    else some (name, fallback, rest.drop (fallback.length + 1))
  | none => if rest.head? = some closingBrace then some (name, [], rest.drop 1) else none

/-- A value with the values of the variables that it refers to; every reference takes at least one
code point. -/
def interpolate (lookup? : Text → Option (Option Text)) (t : Text) : Text :=
  match t with
  | [] => []
  | c :: rest =>
    match (Text.after? (c :: rest) "$\x7b").bind reference? with
    | some (name, fallback, left) =>
      let value := (lookup? name).elim fallback fun value? ↦ value?.getD []
      if _shorter : left.length < rest.length + 1 then value ++ interpolate lookup? left else value
    | none => c :: interpolate lookup? rest
termination_by t.length

/-- Entries with the references in their values replaced: by the variables that there are, and else
by the entries before. -/
def resolve (present? : Text → Option Text) (entries : List (Text × Option Text)) :
    List (Text × Option Text) :=
  entries.foldl (fun known entry ↦
    let lookup? (name : Text) := ((present? name).map some).or (known.reverse.lookup name)
    known ++ [(entry.1, entry.2.map (interpolate lookup?))]) []

def format : VariableFormat := fun present? t ↦ resolve present? (parse t)

end EnvFile

end CallAudit
