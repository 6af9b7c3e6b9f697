import CallAudit.Files.Path
import CallAudit.Number.Numeral

/-!
# Requests

What the arguments of the command line ask for.  Options of a command may stand anywhere among its
operands; behind a double dash everything is an operand.  Arguments that are not understood win over
a request for help, and help wins over operands and values that are missing or wrong.
-/

namespace CallAudit

structure Options where
  paths : List Path
  nameFiles : List Path
  charset? : Option Text
  validate : Bool
  printTree : Bool
  level? : Option Text
  jobs? : Option Int
  dedupe : Bool
  showCalls : Bool
  showFunctions : Bool
  deriving DecidableEq

/-- What the arguments ask for; `misuse` are arguments without a meaning. -/
inductive Request where
  | help
  | misuse
  | version
  | check (options : Options)
  deriving DecidableEq

namespace Request

inductive Command where
  | version
  | check
  deriving DecidableEq, Repr

def Command.name : Command → String
  | version => "version"
  | check => "check"

def Command.find? (name : Text) : Option Command :=
  [Command.version, Command.check].find? fun c ↦ Text.ofString c.name == name

inductive Switch where
  | help
  | validate (on : Bool)
  | printTree
  | dedupe
  | showCalls
  | showFunctions
  deriving DecidableEq, Repr

inductive Setting where
  | names
  | charset
  | level
  | jobs
  deriving DecidableEq, Repr

def Command.switches : Command → List (String × Switch)
  | version => [("--help", .help)]
  | check =>
    [("--help", .help), ("--validate", .validate true), ("--no-validate", .validate false),
      ("--print-tree", .printTree), ("--dedupe", .dedupe), ("--show-calls", .showCalls),
      ("--show-functions", .showFunctions)]

def Command.settings : Command → List (String × Setting)
  | version => []
  | check =>
    [("--funcs", .names), ("--charset", .charset), ("--logging-level", .level), ("--jobs", .jobs)]

def Command.letters : Command → List (Char × Setting)
  | version => []
  | check => [('f', .names), ('j', .jobs)]

inductive Item where
  | switch (s : Switch)
  | setting (s : Setting) (value : Text)
  | operand (t : Text)
  deriving DecidableEq

/-- An option that was recognised; a setting may lack its value. -/
inductive Recognised where
  | switch (s : Switch)
  | setting (s : Setting) (value? : Option Text)

def recogniseLetter? (c : Command) : Text → Option Recognised
  | _ :: letter :: value =>
    (c.letters.find? fun l ↦ CodePoint.ofChar l.1 == letter).map fun l ↦
      .setting l.2 (if value.isEmpty then none else some value)
  | _ => none

/-- The option that an argument gives, with its value behind an equals sign or a letter. -/
def recognise? (c : Command) (arg : Text) : Option Recognised :=
  let name := arg.takeWhile fun d : CodePoint ↦ d != '='
  let value? : Option Text :=
    if name.length = arg.length then none else some (arg.drop (name.length + 1))
  match c.switches.find? fun s ↦ Text.ofString s.1 == name with
  | some s => if value?.isSome then none else some (.switch s.2)
  | none =>
    match c.settings.find? fun s ↦ Text.ofString s.1 == name with
    | some s => some (.setting s.2 value?)
    | none => if (arg.after? "--").isSome then none else recogniseLetter? c arg

def isOption (arg : Text) : Bool := (arg.after? "-").isSome && arg.length > 1

def items? (c : Command) : List Text → Option (List Item)
  | [] => some []
  | arg :: rest =>
    if arg = ("--" : Text) then some (rest.map .operand)
    else if isOption arg then
      match recognise? c arg with
      | none => none
      | some (.switch s) => (items? c rest).map (.switch s :: ·)
      | some (.setting s (some value)) => (items? c rest).map (.setting s value :: ·)
      | some (.setting s none) =>
        match rest with
        | [] => none
        | value :: rest => (items? c rest).map (.setting s value :: ·)
    else (items? c rest).map (.operand arg :: ·)

def operands (items : List Item) : List Text :=
  items.filterMap fun
    | .operand t => some t
    | _ => none

def values (s : Setting) (items : List Item) : List Text :=
  items.filterMap fun
    | .setting s' value => if s' = s then some value else none
    | _ => none

def has (s : Switch) (items : List Item) : Bool := decide (Item.switch s ∈ items)

/-- Whether the sources are to be validated first; the last switch on it counts. -/
def validates (items : List Item) : Bool :=
  items.foldl (fun on item ↦ match item with | .switch (.validate on') => on' | _ => on) true

/-- The number of jobs that is asked for: none, one that is no positive integer, or a good one. -/
def jobs (items : List Item) : Option (Option Int) :=
  ((values .jobs items).getLast?).map fun t ↦ (Numeral.whole? t).filter fun n ↦ decide (1 ≤ n)

/-- What the items of a `check` command ask for.  Paths must be texts that file names can have. -/
def ofCheck (items : List Item) : Request :=
  let paths := (operands items).map Path.parse
  let numbers := jobs items
  if paths.isEmpty || numbers == some none ||
    !(operands items ++ values .names items).all Text.hasBytes then .misuse
  else
    .check
      { paths
        nameFiles := (values .names items).map Path.parse
        charset? := (values .charset items).getLast?
        validate := validates items
        printTree := has .printTree items
        level? := (values .level items).getLast?
        jobs? := numbers.join
        dedupe := has .dedupe items
        showCalls := has .showCalls items
        showFunctions := has .showFunctions items }

def ofCommand (c : Command) (args : List Text) : Request :=
  match items? c args with
  | none => .misuse
  | some items =>
    if has .help items then .help
    else
      match c with
      | .check => ofCheck items
      | .version => if (operands items).isEmpty then .version else .misuse

/-- What is before the command, which can only be requests for help, and the arguments from the
command on. -/
def leading? : List Text → Option (Bool × List Text)
  | [] => some (false, [])
  | arg :: rest =>
    if arg = ("--" : Text) then some (false, rest)
    else if arg = ("--help" : Text) then (leading? rest).map fun (_, left) ↦ (true, left)
    else if isOption arg then none
    else some (false, arg :: rest)

/-- Whether arguments begin with a request for help, which may stand behind a double dash in the
place of a command. -/
def asksForHelp (args : List Text) : Bool := (leading? args).any Prod.fst

def parse (args : List Text) : Request :=
  match leading? args with
  | none => .misuse
  | some (true, _) => .help
  | some (false, []) => .misuse
  | some (false, name :: rest) =>
    match Command.find? name with
    | some c => ofCommand c rest
    | none => if asksForHelp (name :: rest) then .help else .misuse

end Request

end CallAudit
