import DiagramForge.Template.Compile
import DiagramForge.Template.Constant

/-!
# Checking templates

What is left to do once a template has been read. Constant expressions are replaced by their
values; the name that a loop has for itself may not be given to anything else inside one; and a
filter has to exist, unless it stands where a condition may keep it from ever being used: there the
use is what fails.
-/

namespace DiagramForge.Template

/-! ## Names -/

mutual

/-- The lines on which a target has a name. -/
def Target.linesOf (name : String) : Target → List Nat
  | .name n line => if n == name then [line] else []
  | .parts ts => Target.linesAmong name ts

/-- The lines on which one of several targets has a name. -/
def Target.linesAmong (name : String) : List Target → List Nat
  | [] => []
  | t :: ts => t.linesOf name ++ Target.linesAmong name ts

end

mutual

/-- The lines on which a value is bound to a name in a part. -/
def Node.linesOf (name : String) : Node → List Nat
  | .text _ | .print _ => []
  | .cond _ yes no => yes.linesOf name ++ no.linesOf name
  | .loop target _ _ body empty =>
    target.linesOf name ++ body.linesOf name ++ empty.linesOf name
  | .assign target _ => target.linesOf name
  | .capture target body => target.linesOf name ++ body.linesOf name

/-- The lines on which a value is bound to a name in a block. -/
def Block.linesOf (name : String) : Block → List Nat
  | .nil => []
  | .cons n rest => n.linesOf name ++ rest.linesOf name

end

/-! ## Filters -/

mutual

/-- The names of the filters in an expression. -/
def Expr.filters : Expr → List String
  | .literal _ | .name .. => []
  | .list items | .tuple items _ | .dict items | .concat items => items.filters
  | .field e _ | .unary _ e => e.filters
  | .item a b | .binary _ a b | .and a b | .or a b | .when a b _ => a.filters ++ b.filters
  | .call f args => f.filters ++ args.filters
  | .filter e name args _ | .unknown e name args _ => name :: e.filters ++ args.filters
  | .compare e _ operands => e.filters ++ operands.filters
  | .cond c a b => c.filters ++ a.filters ++ b.filters

/-- The names of the filters in arguments. -/
def Args.filters : Args → List String
  | .nil => []
  | .positional e rest | .named _ e rest => e.filters ++ rest.filters

end

mutual

/-- The names of the filters in a part. -/
def Node.filters : Node → List String
  | .text _ => []
  | .print e => e.filters
  | .cond c yes no => c.filters ++ yes.filters ++ no.filters
  | .loop _ items test body empty =>
    items.filters ++ (test.map Expr.filters).getD [] ++ body.filters ++ empty.filters
  | .assign _ e => e.filters
  | .capture _ body => body.filters

/-- The names of the filters in a block. -/
def Block.filters : Block → List String
  | .nil => []
  | .cons n rest => n.filters ++ rest.filters

end

/-- The names in ascending order, each once. -/
def sortedNames (names : List String) : List String :=
  (names.mergeSort (· ≤ ·)).eraseReps

/-- What checking needs to know about the surroundings of an expression. -/
structure CheckFrame where
  /-- The names of all filters of the template. -/
  filters : List String
  /-- Whether a condition may keep the expression from being evaluated. -/
  soft : Bool := false

mutual

/-- Finds the filters that do not exist: a fault, or left to fail when they are used. -/
def Expr.resolve (f : CheckFrame) : Expr → Except CompileFault Expr
  | .literal v => .ok (.literal v)
  | .name n line => .ok (.name n line)
  | .list items => do return .list (← items.resolve f)
  | .tuple items line => do return .tuple (← items.resolve f) line
  | .dict entries => do return .dict (← entries.resolve f)
  | .field e name => do return .field (← e.resolve f) name
  | .item e key => do
    let e ← e.resolve f
    return .item e (← key.resolve f)
  | .call g args => do
    let g ← g.resolve f
    return .call g (← args.resolve f)
  | .filter e name args line => do
    let known := filterNames.contains name
    if !known && !f.soft then throw (.syntaxError line)
    let e ← e.resolve f
    let args ← args.resolve f
    return if known then .filter e name args line
      else .unknown e name args (f.filters.idxOf name)
  | .unknown e name args place => do
    let e ← e.resolve f
    return .unknown e name (← args.resolve f) place
  | .unary op e => do return .unary op (← e.resolve f)
  | .binary op a b => do
    let a ← a.resolve f
    return .binary op a (← b.resolve f)
  | .and a b => do
    let a ← a.resolve f
    return .and a (← b.resolve f)
  | .or a b => do
    let a ← a.resolve f
    return .or a (← b.resolve f)
  | .compare e ops operands => do
    let e ← e.resolve f
    return .compare e ops (← operands.resolve f)
  | .concat items => do return .concat (← items.resolve f)
  | .cond c a b => do
    let a ← a.resolve { f with soft := true }
    let c ← c.resolve { f with soft := true }
    return .cond c a (← b.resolve { f with soft := true })
  | .when c a line => do
    let a ← a.resolve { f with soft := true }
    return .when (← c.resolve { f with soft := true }) a line

/-- Finds the filters in arguments that do not exist. -/
def Args.resolve (f : CheckFrame) : Args → Except CompileFault Args
  | .nil => .ok .nil
  | .positional e rest => do
    let e ← e.resolve f
    return .positional e (← rest.resolve f)
  | .named name e rest => do
    let e ← e.resolve f
    return .named name e (← rest.resolve f)

end

/-! ## Whole templates -/

mutual

/-- Checks an expression. The items of a list, tuple or dictionary are checked one by one; any
other expression is folded as a whole first. -/
def Expr.check (f : CheckFrame) : Expr → Except CompileFault Expr
  | .literal v => .ok (.literal v)
  | .name n line => .ok (.name n line)
  | .list items => do return .list (← items.check f)
  | .tuple items line => do return .tuple (← items.check f) line
  | .dict entries => do return .dict (← entries.check f)
  | e => do (← e.fold.mapError .constant).resolve f

/-- Checks arguments. -/
def Args.check (f : CheckFrame) : Args → Except CompileFault Args
  | .nil => .ok .nil
  | .positional e rest => do
    let e ← e.check f
    return .positional e (← rest.check f)
  | .named name e rest => do
    let e ← e.check f
    return .named name e (← rest.check f)

end

/-- The text of an expression that is printed, if it is constant and can be shown. -/
def Expr.constantText? (e : Expr) : Option String :=
  match e.constant with
  | .ok v => (v.shown takeItem).result.toOption
  | .error _ => none

mutual

/-- Checks a part. -/
def Node.check (f : CheckFrame) : Node → Except CompileFault Node
  | .text s => .ok (.text s)
  | .print e =>
    match e.constantText? with
    | some s => .ok (.text s)
    | none => do return .print (← e.check f)
  | .cond c yes no => do
    let c ← c.check { f with soft := true }
    let yes ← yes.check { f with soft := true }
    return .cond c yes (← no.check { f with soft := true })
  | .loop target items test body empty => do
    let test ← match test with
      | some e => some <$> e.check { f with soft := false }
      | none => pure none
    match (Node.loop target items none body empty).linesOf "loop" with
    | line :: _ => throw (.syntaxError line)
    | [] => pure ()
    let items ← items.check f
    let body ← body.check { f with soft := false }
    return .loop target items test body (← empty.check { f with soft := false })
  | .assign target e => do return .assign target (← e.check f)
  | .capture target body => do return .capture target (← body.check { f with soft := false })

/-- Checks a block. -/
def Block.check (f : CheckFrame) : Block → Except CompileFault Block
  | .nil => .ok .nil
  | .cons n rest => do
    let n ← n.check f
    return .cons n (← rest.check f)

end

/-- Compiles a template. -/
def compile (source : String) : Except CompileFault Block := do
  let b ← Block.ofSource source
  b.check { filters := sortedNames b.filters }

end DiagramForge.Template
