import DiagramForge.Template.Operation

/-!
# The language of templates

A compiled template is a block: a sequence of texts, printed values and statements. Arguments and
blocks are inductive types of their own, beside expressions and nodes, so that evaluation is
structural recursion throughout.

Lines are kept where a fault may have to be reported on one after a template has been read.
-/

namespace DiagramForge.Template

mutual

/-- An expression. -/
inductive Expr where
  /-- A literal, or the value of an expression that does not depend on anything. -/
  | literal (v : Value)
  /-- A name, with its line. -/
  | name (n : String) (line : Nat)
  /-- A list of expressions. -/
  | list (items : Args)
  /-- A tuple of expressions, with its line. -/
  | tuple (items : Args) (line : Nat)
  /-- A dictionary, given by its keys and values in turn. -/
  | dict (entries : Args)
  /-- An attribute of a value. -/
  | field (e : Expr) (name : String)
  /-- An item of a value. -/
  | item (e key : Expr)
  /-- A call. -/
  | call (f : Expr) (args : Args)
  /-- A value passed through a filter, with the line of the filter's name. -/
  | filter (e : Expr) (name : String) (args : Args) (line : Nat)
  /-- A value passed through a filter that does not exist, with the place of the filter's name
  among those of the template. -/
  | unknown (e : Expr) (name : String) (args : Args) (place : Nat)
  /-- An operation of one operand. -/
  | unary (op : UnaryOp) (e : Expr)
  /-- An operation of two operands. -/
  | binary (op : BinaryOp) (a b : Expr)
  /-- The second value if the first one counts as true, else the first one. -/
  | and (a b : Expr)
  /-- The first value if it counts as true, else the second one. -/
  | or (a b : Expr)
  /-- A chain of comparisons, each of an operand with the next one. -/
  | compare (e : Expr) (ops : List Comparison) (operands : Args)
  /-- The texts of values one after the other. -/
  | concat (items : Args)
  /-- One of two values by a condition. -/
  | cond (c a b : Expr)
  /-- A value under a condition, with the line it is written on. -/
  | when (c a : Expr) (line : Nat)

/-- The arguments of a call, positional and named. -/
inductive Args where
  /-- No arguments. -/
  | nil
  /-- A positional argument and further ones. -/
  | positional (e : Expr) (rest : Args)
  /-- A named argument and further ones. -/
  | named (name : String) (e : Expr) (rest : Args)

end

namespace Args

/-- Adds a positional argument at the end. -/
def push : Args → Expr → Args
  | nil, e => positional e nil
  | positional e' rest, e => positional e' (rest.push e)
  | named name e' rest, e => named name e' (rest.push e)

/-- Adds a named argument at the end. -/
def pushNamed : Args → String → Expr → Args
  | nil, name, e => named name e nil
  | positional e' rest, name, e => positional e' (rest.pushNamed name e)
  | named name' e' rest, name, e => named name' e' (rest.pushNamed name e)

/-- The expressions of arguments. -/
def exprs : Args → List Expr
  | nil => []
  | positional e rest => e :: rest.exprs
  | named _ e rest => e :: rest.exprs

/-- Arguments that are all positional. -/
def ofList : List Expr → Args
  | [] => nil
  | e :: es => positional e (ofList es)

end Args

/-- What a value is bound to: a name, with its line, or the parts of the value each to one. -/
inductive Target where
  /-- A name. -/
  | name (n : String) (line : Nat)
  /-- The parts of the value. -/
  | parts (targets : List Target)
deriving Inhabited

mutual

/-- A part of a template. -/
inductive Node where
  /-- Text. -/
  | text (s : String)
  /-- A value that is printed. -/
  | print (e : Expr)
  /-- One of two blocks by a condition. -/
  | cond (c : Expr) (yes no : Block)
  /-- A block for each item of a value for which a condition holds, and a block for the case that
  there is none. -/
  | loop (target : Target) (items : Expr) (test : Option Expr) (body empty : Block)
  /-- A name for a value, or names for its parts. -/
  | assign (target : Target) (e : Expr)
  /-- A name for the text of a block. -/
  | capture (target : Target) (body : Block)

/-- A sequence of parts. -/
inductive Block where
  /-- Nothing. -/
  | nil
  /-- A part and further ones. -/
  | cons (n : Node) (rest : Block)

end

/-- A block as the list of its parts. -/
def Block.ofList : List Node → Block
  | [] => nil
  | n :: ns => cons n (ofList ns)

/-! ## Faults of a template -/

/-- Why a template cannot be compiled. -/
inductive CompileFault where
  /-- A syntax error on a line. -/
  | syntaxError (line : Nat)
  /-- A constant part of the template breaks when its value is taken in advance. -/
  | constant (fault : RenderFault)

end DiagramForge.Template
