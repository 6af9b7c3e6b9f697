import CallAudit.Number.Shortest
import CallAudit.Text.Printable
import CallAudit.Tree.Basic

/-!
# Analysed trees

The tree on which names are resolved.  It keeps the parts of a program that matter for calls:

* `call` and `new` nodes hold the callee and then the arguments;
* `getProp` nodes hold an object and a `string` node, `getElem` nodes an object and a key;
* `add` and assignment nodes hold two operands;
* `var` nodes hold a `name` node for each declared name, which holds the initial value;
* `function` nodes hold a `name`, a `paramList` and a body;
* `objectLit` nodes hold `stringKey` nodes, which hold the value.

Every other node is of kind `other` and keeps the name of its grammar rule.
-/

namespace CallAudit

inductive Assignment where
  | plain
  | bitOr | bitXor | bitAnd
  | shiftLeft | shiftRight | shiftRightUnsigned
  | add | sub | mul | div | mod | exponent
  | and | or | coalesce
  deriving DecidableEq, Repr

namespace Assignment

def spelling : Assignment → String
  | plain => "="
  | bitOr => "|="
  | bitXor => "^="
  | bitAnd => "&="
  | shiftLeft => "<<="
  | shiftRight => ">>="
  | shiftRightUnsigned => ">>>="
  | add => "+="
  | sub => "-="
  | mul => "*="
  | div => "/="
  | mod => "%="
  | exponent => "**="
  | and => "&&="
  | or => "||="
  | coalesce => "??="

def label : Assignment → String
  | plain => "ASSIGN"
  | bitOr => "ASSIGN_BITOR"
  | bitXor => "ASSIGN_BITXOR"
  | bitAnd => "ASSIGN_BITAND"
  | shiftLeft => "ASSIGN_LSH"
  | shiftRight => "ASSIGN_RSH"
  | shiftRightUnsigned => "ASSIGN_URSH"
  | add => "ASSIGN_ADD"
  | sub => "ASSIGN_SUB"
  | mul => "ASSIGN_MUL"
  | div => "ASSIGN_DIV"
  | mod => "ASSIGN_MOD"
  | exponent => "ASSIGN_EXPONENT"
  | and => "ASSIGN_AND"
  | or => "ASSIGN_OR"
  | coalesce => "ASSIGN_COALESCE"

def all : List Assignment :=
  [plain, bitOr, bitXor, bitAnd, shiftLeft, shiftRight, shiftRightUnsigned, add, sub, mul, div, mod,
    exponent, and, or, coalesce]

def ofSpelling? (t : Text) : Option Assignment := all.find? fun a ↦ Text.ofString a.spelling == t

end Assignment

namespace Node

inductive Kind where
  | script | block | exprResult
  | name | string | number | template
  | call | new | getProp | getElem | add
  | assign (operator : Assignment)
  | var | function | paramList
  | objectLit | stringKey
  | other
  deriving DecidableEq, Repr

namespace Kind

def label : Kind → String
  | script => "SCRIPT"
  | block => "BLOCK"
  | exprResult => "EXPR_RESULT"
  | name => "NAME"
  | string => "STRING"
  | number => "NUMBER"
  | template => "TEMPLATE"
  | call => "CALL"
  | new => "NEW"
  | getProp => "GETPROP"
  | getElem => "GETELEM"
  | add => "ADD"
  | assign operator => operator.label
  | var => "VAR"
  | function => "FUNCTION"
  | paramList => "PARAM_LIST"
  | objectLit => "OBJECTLIT"
  | stringKey => "STRING_KEY"
  | other => "OTHER"

def all : List Kind :=
  [script, block, exprResult, name, string, number, template, call, new, getProp, getElem, add, var,
    function, paramList, objectLit, stringKey, other] ++ Assignment.all.map assign

def ofLabel? (label : String) : Option Kind := all.find? fun k ↦ k.label == label

end Kind

/-- What an analysed node says about itself: its kind, the file and line it comes from, and a text,
a number or the name of a grammar rule where its kind calls for one.  By its tag, of a type `ι` of
the caller's choice, a node is recognised in the results of the analysis. -/
structure Mark (ι : Type) where
  kind : Kind
  file : Text
  line : Int
  string? : Option Text
  number? : Option Binary64
  rule? : Option Text
  tag : ι
  deriving DecidableEq

end Node

abbrev Node (ι : Type) := Tree (Node.Mark ι)

namespace Node

variable {ι : Type}

def kind (n : Node ι) : Kind := n.label.kind

namespace Mark

/-- What is shown of a node after its kind: the grammar rule of an `other` node, and the payload. -/
def details (m : Mark ι) : Text :=
  let rule : Text :=
    match m.kind, m.rule? with
    | .other, some rule => if rule.isEmpty then [] else Text.concat [" (", rule, ")"]
    | _, _ => []
  let payload : Text :=
    match m.kind with
    | .number => ' ' :: m.number?.elim "None" Binary64.decimal
    | _ => m.string?.elim [] fun s ↦ ' ' :: s.quoted
  rule ++ payload

/-- A node in one line: `KIND (RULE) PAYLOAD [line LINE]`. -/
def render (m : Mark ι) : Text :=
  Text.concat [m.kind.label, m.details, " [line ", Text.ofInt m.line, "]"]

def describe (m : Mark ι) : Text := Text.concat ["Node(", m.render, ")"]

end Mark

/-- The lines of a listing of some trees at given depths: a node before its children, four blanks
for each level. -/
def listing : List (Nat × Node ι) → List Text
  | [] => []
  | (depth, n) :: stack =>
    (List.replicate (4 * depth) (CodePoint.ofChar ' ') ++ n.label.render) ::
      listing (n.children.map (fun c ↦ (depth + 1, c)) ++ stack)
termination_by stack => Tree.sizes (stack.map Prod.snd)
decreasing_by
  simp only [List.map_append, List.map_map, List.map_cons, Tree.sizes_append, Tree.sizes_cons,
    Tree.size_eq]
  rw [show (Prod.snd ∘ fun c : Node ι ↦ (depth + 1, c)) = id from rfl, List.map_id]
  omega

def dump (n : Node ι) : Text := Text.join [.lineFeed] (listing [(0, n)])

/-- Ways in which an analysed tree can fall short of the shape that its kinds promise. -/
inductive Defect where
  | alreadyOwned
  | noString
  | noNumber
  | operandCount
  | notComputedMember
  | notCall
  | noCallee
  | notPropertyAccess
  | notAssignment
  | notFunction
  | unnamedFunction
  deriving DecidableEq, Repr

def Defect.message : Defect → String
  | alreadyOwned => "node already has a parent"
  | noString => "expected a node with a string payload"
  | noNumber => "number literal without a value"
  | operandCount => "'+' expression needs two operands"
  | notComputedMember => "expected obj[key] with two children"
  | notCall => "expected a call or new expression"
  | noCallee => "call without a callee"
  | notPropertyAccess => "property access needs an object and a property"
  | notAssignment => "expected an assignment"
  | notFunction => "expected a function"
  | unnamedFunction => "function without a name node"

structure Malformed where
  defect : Defect
  file : Text
  line : Int
  kind : Kind
  deriving DecidableEq

namespace Malformed

def of (defect : Defect) (m : Mark ι) : Malformed := ⟨defect, m.file, m.line, m.kind⟩

/-- `DEFECT at FILE:LINE (KIND)`. -/
def message (e : Malformed) : Text :=
  Text.concat [e.defect.message, " at ", e.file, ":", Text.ofInt e.line, " (", e.kind.label, ")"]

end Malformed

def string (n : Node ι) : Except Malformed Text :=
  match n.label.string? with
  | some s => .ok s
  | none => .error (.of .noString n.label)

end Node

end CallAudit
