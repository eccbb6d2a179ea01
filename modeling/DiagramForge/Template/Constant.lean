import DiagramForge.Template.Expr
import DiagramForge.Template.Filter

/-!
# Constant expressions

An expression that depends on nothing has its value taken when the template is compiled. That an
expression is no constant is the ordinary case and no fault: names and calls are none, and most
operations that break are left to break when the expression is evaluated. A few are not: joining
texts, choosing by a condition, `and`, `or` and building a dictionary break at once.
-/

namespace DiagramForge.Template

/-- Why an expression has no constant value. -/
inductive Unfolded where
  /-- It is no constant, or breaks only when it is evaluated. -/
  | varying
  /-- It breaks at once. -/
  | broken (fault : RenderFault)

/-- The constant value of something, if it has one. -/
abbrev Constant := Except Unfolded

namespace Constant

/-- A result of which a fault breaks the template. -/
def strict {α : Type} (r : Except RenderFault α) : Constant α :=
  r.mapError .broken

/-- A result of which a fault is left to evaluation. -/
def lenient {α : Type} (r : Except RenderFault α) : Constant α :=
  r.mapError fun _ ↦ .varying

/-- A constant every fault of which is left to evaluation. -/
def relaxed {α : Type} (c : Constant α) : Constant α :=
  c.mapError fun _ ↦ .varying

end Constant

open Constant

mutual

/-- Whether a value can stand in a template as a literal: data without records or functions. -/
def Value.isLiteral : Value → Bool
  | .none | .bool _ | .int _ | .text _ | .range .. => true
  | .sequence _ items => literalItems items
  | .mapping .plain entries => literalEntries entries
  | _ => false

/-- Whether all items of a list can stand in a template as literals. -/
def Value.literalItems : List Value → Bool
  | [] => true
  | v :: vs => Value.isLiteral v && Value.literalItems vs

/-- Whether all entries of a dictionary can stand in a template as literals. -/
def Value.literalEntries : List (Value × Value) → Bool
  | [] => true
  | (key, v) :: es => Value.isLiteral key && Value.isLiteral v && Value.literalEntries es

end

/-- Keys and values in turn, as entries. -/
def entriesOf : List Value → List (Value × Value)
  | key :: v :: vs => (key, v) :: entriesOf vs
  | _ => []

/-- The value of a comparison. -/
def Comparison.apply (taker : Taker) (c : Comparison) (a b : Value) : Evaluation Value := do
  match c with
  | .eq => return .bool (← a.equal b)
  | .ne => return .bool (!(← a.equal b))
  | .mem => return .bool (← a.occursAmong taker b)
  | .notMem => return .bool (!(← a.occursAmong taker b))

/-! ## The value of a constant expression -/

mutual

/-- The constant value of an expression. -/
def Expr.constant : Expr → Constant Value
  | .literal v => .ok v
  | .name .. | .call .. | .unknown .. => .error .varying
  | .list items => do return .list (← items.constants)
  | .tuple items _ => do return .tuple (← items.constants)
  | .dict entries => do strict (Value.dictOf (entriesOf (← entries.constants)))
  | .field e name => relaxed do
    lenient ((← e.constant).field takeItem name).result
  | .item e key => relaxed do
    let v ← e.constant
    lenient (v.item takeItem (← key.constant)).result
  | .filter e name args _ =>
    if name == "map" || !filterNames.contains name then .error .varying
    else do
      let (vs, named) ← args.constantArgs
      lenient (applyFilter name (← e.constant) vs named).result
  | .unary op e => relaxed do lenient (op.apply (← e.constant))
  | .binary op a b => relaxed do
    let v ← a.constant
    lenient (op.apply v (← b.constant))
  | .and a b => do
    let v ← a.constant
    if ← strict v.truth then b.constant else return v
  | .or a b => do
    let v ← a.constant
    if ← strict v.truth then return v else b.constant
  | .compare e ops operands => do
    let v ← e.constant
    relaxed (operands.constantChain v ops)
  | .concat items => do return .text (← items.constantText)
  | .cond c a b => do
    if ← strict (← c.constant).truth then a.constant else b.constant
  | .when c a _ => do
    if ← strict (← c.constant).truth then a.constant else throw .varying

/-- The constant values of arguments. -/
def Args.constants : Args → Constant (List Value)
  | .nil => .ok []
  | .positional e rest | .named _ e rest => do
    let v ← e.constant
    return v :: (← rest.constants)

/-- The constant values of arguments, the positional ones and the named ones. -/
def Args.constantArgs : Args → Constant (List Value × NamedValues)
  | .nil => .ok ([], [])
  | .positional e rest => do
    let v ← e.constant
    let (vs, named) ← rest.constantArgs
    return (v :: vs, named)
  | .named name e rest => do
    let v ← e.constant
    let (vs, named) ← rest.constantArgs
    return (vs, (name, v) :: named)

/-- The constant value of a chain of comparisons that begins with a value. -/
def Args.constantChain (v : Value) (ops : List Comparison) : Args → Constant Value
  | .nil => .ok (.bool true)
  | .positional e rest | .named _ e rest => do
    let w ← e.constant
    match ops with
    | [] => return .bool true
    | op :: ops =>
      let r ← lenient (op.apply takeItem v w).result
      if ← lenient r.truth then
        match rest with
        | .nil => return r
        | rest => rest.constantChain w ops
      else return .bool false

/-- The constant texts of arguments, one after the other. -/
def Args.constantText : Args → Constant String
  | .nil => .ok ""
  | .positional e rest | .named _ e rest => do
    let s ← strict ((← e.constant).shown takeItem).result
    return s ++ (← rest.constantText)

end

/-! ## Folding -/

/-- An expression, or its constant value if it has one that can stand as a literal. -/
def Expr.folded (e : Expr) : Except RenderFault Expr :=
  match e.constant with
  | .ok v => .ok (if v.isLiteral then .literal v else e)
  | .error .varying => .ok e
  | .error (.broken fault) => .error fault

mutual

/-- An expression with its constant parts replaced by their values, inner parts first. -/
def Expr.fold : Expr → Except RenderFault Expr
  | .literal v => .ok (.literal v)
  | .name n line => .ok (.name n line)
  | .list items => do (Expr.list (← items.fold)).folded
  | .tuple items line => do (Expr.tuple (← items.fold) line).folded
  | .dict entries => do (Expr.dict (← entries.fold)).folded
  | .field e name => do (Expr.field (← e.fold) name).folded
  | .item e key => do
    let e ← e.fold
    (Expr.item e (← key.fold)).folded
  | .call f args => do
    let f ← f.fold
    return .call f (← args.fold)
  | .filter e name args line => do
    let e ← e.fold
    (Expr.filter e name (← args.fold) line).folded
  | .unknown e name args place => do
    let e ← e.fold
    return .unknown e name (← args.fold) place
  | .unary op e => do (Expr.unary op (← e.fold)).folded
  | .binary op a b => do
    let a ← a.fold
    (Expr.binary op a (← b.fold)).folded
  | .and a b => do
    let a ← a.fold
    (Expr.and a (← b.fold)).folded
  | .or a b => do
    let a ← a.fold
    (Expr.or a (← b.fold)).folded
  | .compare e ops operands => do
    let e ← e.fold
    (Expr.compare e ops (← operands.fold)).folded
  | .concat items => do (Expr.concat (← items.fold)).folded
  | .cond c a b => do
    let c ← c.fold
    let a ← a.fold
    (Expr.cond c a (← b.fold)).folded
  | .when c a line => do
    let c ← c.fold
    (Expr.when c (← a.fold) line).folded

/-- Arguments with their constant parts replaced by their values. -/
def Args.fold : Args → Except RenderFault Args
  | .nil => .ok .nil
  | .positional e rest => do
    let e ← e.fold
    return .positional e (← rest.fold)
  | .named name e rest => do
    let e ← e.fold
    return .named name e (← rest.fold)

end

end DiagramForge.Template
