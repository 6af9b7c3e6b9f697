import CallAudit.Text.CodePoint
import CallAudit.Tree.Basic

/-!
# Concrete trees

The tree that the grammar assigns to a source file.  A node has a kind, the field under which its
parent holds it, the bytes of the source that it spans, and the position at which it starts.
-/

namespace CallAudit

namespace Concrete

/-- The kinds of nodes that the analysis tells apart; all others keep their name. -/
inductive Kind where
  | program | statementBlock | classBody | expressionStatement | identifier | propertyIdentifier
  | privatePropertyIdentifier | shorthandPropertyIdentifier | shorthandPropertyIdentifierPattern
  | string | number | templateString | callExpression | newExpression | memberExpression
  | subscriptExpression | binaryExpression | parenthesizedExpression | assignmentExpression
  | augmentedAssignmentExpression | variableDeclaration | lexicalDeclaration | variableDeclarator
  | functionDeclaration | functionExpression | function | generatorFunctionDeclaration
  | generatorFunction | arrowFunction | methodDefinition | object | pair | arguments
  | formalParameters | comment | htmlComment | optionalChain | hashBangLine | error
  | other (name : String)
  deriving DecidableEq, Repr

namespace Kind

def name : Kind → String
  | program => "program"
  | statementBlock => "statement_block"
  | classBody => "class_body"
  | expressionStatement => "expression_statement"
  | identifier => "identifier"
  | propertyIdentifier => "property_identifier"
  | privatePropertyIdentifier => "private_property_identifier"
  | shorthandPropertyIdentifier => "shorthand_property_identifier"
  | shorthandPropertyIdentifierPattern => "shorthand_property_identifier_pattern"
  | string => "string"
  | number => "number"
  | templateString => "template_string"
  | callExpression => "call_expression"
  | newExpression => "new_expression"
  | memberExpression => "member_expression"
  | subscriptExpression => "subscript_expression"
  | binaryExpression => "binary_expression"
  | parenthesizedExpression => "parenthesized_expression"
  | assignmentExpression => "assignment_expression"
  | augmentedAssignmentExpression => "augmented_assignment_expression"
  | variableDeclaration => "variable_declaration"
  | lexicalDeclaration => "lexical_declaration"
  | variableDeclarator => "variable_declarator"
  | functionDeclaration => "function_declaration"
  | functionExpression => "function_expression"
  | function => "function"
  | generatorFunctionDeclaration => "generator_function_declaration"
  | generatorFunction => "generator_function"
  | arrowFunction => "arrow_function"
  | methodDefinition => "method_definition"
  | object => "object"
  | pair => "pair"
  | arguments => "arguments"
  | formalParameters => "formal_parameters"
  | comment => "comment"
  | htmlComment => "html_comment"
  | optionalChain => "optional_chain"
  | hashBangLine => "hash_bang_line"
  | error => "ERROR"
  | other name => name

def distinguished : List Kind :=
  [program, statementBlock, classBody, expressionStatement, identifier, propertyIdentifier,
    privatePropertyIdentifier, shorthandPropertyIdentifier, shorthandPropertyIdentifierPattern,
    string, number, templateString, callExpression, newExpression, memberExpression,
    subscriptExpression, binaryExpression, parenthesizedExpression, assignmentExpression,
    augmentedAssignmentExpression, variableDeclaration, lexicalDeclaration, variableDeclarator,
    functionDeclaration, functionExpression, function, generatorFunctionDeclaration,
    generatorFunction, arrowFunction, methodDefinition, object, pair, arguments, formalParameters,
    comment, htmlComment, optionalChain, hashBangLine, error]

def ofName (name : String) : Kind := (distinguished.find? fun k ↦ k.name == name).getD (other name)

/-- Nodes of these kinds say nothing about calls and are left out of the analysis. -/
def isSkipped : Kind → Bool
  | comment | htmlComment | optionalChain | hashBangLine => true
  | _ => false

/-- No kind loses its name: one without a constructor of its own keeps it. -/
theorem name_ofName (s : String) : (ofName s).name = s := by
  unfold ofName
  cases h : distinguished.find? fun k ↦ k.name == s with
  | none => rfl
  | some k =>
    have := List.find?_some h
    simpa using this

end Kind

inductive Field where
  | function | constructor | arguments
  | object | property | index
  | left | right | operator
  | name | value | key
  | parameters | parameter | body
  | other (name : String)
  deriving DecidableEq, Repr

def Field.ofName : String → Field
  | "function" => .function
  | "constructor" => .constructor
  | "arguments" => .arguments
  | "object" => .object
  | "property" => .property
  | "index" => .index
  | "left" => .left
  | "right" => .right
  | "operator" => .operator
  | "name" => .name
  | "value" => .value
  | "key" => .key
  | "parameters" => .parameters
  | "parameter" => .parameter
  | "body" => .body
  | s => .other s

/-- What a concrete node says about itself.  `named` nodes are those of the grammar's rules, as
opposed to punctuation; a `missing` node was supplied by the grammar's error recovery; a `faulty`
one is or holds an error. -/
structure Mark where
  kind : Kind
  field? : Option Field
  named : Bool
  missing : Bool
  faulty : Bool
  text : List UInt8
  row : Nat
  column : Nat

end Concrete

abbrev Concrete := Tree Concrete.Mark

namespace Concrete

def kind (t : Concrete) : Kind := t.label.kind

def line (t : Concrete) : Nat := t.label.row + 1

def child? (t : Concrete) (f : Field) : Option Concrete :=
  t.children.find? fun c ↦ c.label.field? == some f

def named (t : Concrete) : List Concrete :=
  t.children.filter fun c ↦ c.label.named && !c.kind.isSkipped

/-- One row of the preorder listing of a concrete tree over some source bytes. -/
structure Row where
  depth : Nat
  mark : Mark

def slice (source : List UInt8) (start stop : Nat) : List UInt8 :=
  (source.drop start).take (stop - start)

def ofRows? (rows : List Row) : Option Concrete :=
  (Tree.ofRows (rows.map fun r ↦ (r.depth, r.mark))).head?

end Concrete

end CallAudit
