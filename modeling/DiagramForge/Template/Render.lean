import DiagramForge.Template.Check
import DiagramForge.Template.Helper

/-!
# Rendering templates

The meaning of a compiled template: in a scope that binds names to values it denotes a text, or a
fault.

What a template calls is left to a `Host`: helpers work on values alone, and fragments are rendered
by whoever keeps the compiled templates. Rendering is therefore generic in the state `σ` of that
keeper, which it passes along and never looks at, beside the `Memory` of streams and loops. A fault
leaves the state as it is by then.
-/

namespace DiagramForge.Template

/-- Rendering with a state: a fault does not undo what happened to the state before. -/
abbrev Render (σ : Type) := ExceptT RenderFault (StateM (Memory × σ))

/-- What the surroundings of a template provide. -/
structure Host (σ : Type) where
  /-- The helper functions. -/
  helpers : List (String × Helper)
  /-- Renders a fragment, given the arguments of the call. -/
  fragment : List Value → NamedValues → Render σ Value

/-- The names bound at a place of a template, the innermost first. -/
abbrev Scope := List (String × Value)

variable {σ : Type}

/-- A result that does not involve the state. -/
def lift {α : Type} (r : Except RenderFault α) : Render σ α :=
  ExceptT.mk (pure r)

/-- What involves streams and loops only. -/
def evaluate {α : Type} (e : Evaluation α) : Render σ α :=
  ExceptT.mk fun (memory, s) ↦
    let (r, memory) := (e.run memory).run
    (r, (memory, s))

/-- What involves the keeper's state only. -/
def keep {α : Type} (e : ExceptT RenderFault (StateM σ) α) : Render σ α :=
  ExceptT.mk fun (memory, s) ↦
    let (r, s) := (e.run s).run
    (r, (memory, s))

/-- Rendering from the start: there are no streams and loops before, and they are gone after. -/
def Render.alone {α : Type} (r : Render σ α) : ExceptT RenderFault (StateM σ) α :=
  ExceptT.mk fun s ↦
    let (r, (_, s)) := (r.run ({}, s)).run
    (r, s)

/-! ## Calls -/

/-- The names that can be called in every template unless they are bound to something else. -/
def builtinNames : List String :=
  ["range", "dict", "lipsum", "cycler", "joiner", "namespace"]

/-- The integer that a value stands for as a bound of a range. -/
def rangeBound (v : Value) : Except RenderFault Int :=
  match v.number? with
  | some n => .ok n
  | none => Value.badType ("'" ++ v.typeName ++ "' object cannot be interpreted as an integer")

/-- The range between bounds. -/
def rangeOf (args : List Value) (named : NamedValues) : Except RenderFault Value := do
  match ← (← between "range" "range" 1 3 args named).mapM rangeBound with
  | [stop] => return .range 0 stop 1
  | [start, stop] => return .range start stop 1
  | [start, stop, step] =>
    if step = 0 then Value.badValue "range() arg 3 must not be zero"
    return .range start stop step
  | _ => return .none

/-- The dictionary of named values over the entries of another. -/
def dictionaryOf (args : List Value) (named : NamedValues) : Except RenderFault Value := do
  let first ← match args with
    | [] => pure []
    | [.mapping _ entries] => pure entries
    | [v] => (← v.items).mapM fun item ↦ do
      match ← item.items with
      | [key, w] => return (key, w)
      | parts =>
        Value.badValue ("dictionary update sequence element #0 has length "
          ++ toString parts.length ++ "; 2 is required")
    | args =>
      Value.badType ("dict expected at most 1 argument, got " ++ toString args.length)
  Value.dictOf (first ++ named.map fun e ↦ (.text e.1, e.2))

/-- Calls a value. -/
def call (host : Host σ) (f : Value) (args : List Value) (named : NamedValues) :
    Render σ Value :=
  match f with
  | .helper name =>
    match Entries.get? host.helpers name with
    | some helper => evaluate (helper args named)
    | none => lift (.error (.undefined (Text.quoted name ++ " is undefined")))
  | .fragment => host.fragment args named
  | .method v name => evaluate (callMethod takeItem v name args named)
  | .builtin "range" => lift (rangeOf args named)
  | .builtin "dict" => lift (dictionaryOf args named)
  | .undefined reason | .omitted reason => lift (.error (.undefined reason))
  | .loop _ =>
    lift (Value.badType
      "The loop must have the 'recursive' marker to be called recursively.")
  | v => lift (Value.badType ("'" ++ v.typeName ++ "' object is not callable"))

/-- What a name denotes. -/
def Scope.value (scope : Scope) (name : String) : Value :=
  match Entries.get? scope name with
  | some v => v
  | none => if builtinNames.contains name then .builtin name else .unbound name

/-! ## Expressions -/

mutual

/-- The value of an expression. -/
def Expr.eval (host : Host σ) (scope : Scope) : Expr → Render σ Value
  | .literal v => pure v
  | .name n _ => pure (scope.value n)
  | .list items => do
    let (vs, _) ← items.eval host scope
    return .list vs
  | .tuple items _ => do
    let (vs, _) ← items.eval host scope
    return .tuple vs
  | .dict entries => do
    let (vs, _) ← entries.eval host scope
    lift (Value.dictOf (entriesOf vs))
  | .field e name => do
    let v ← e.eval host scope
    evaluate (v.field takeItem name)
  | .item e key => do
    let v ← e.eval host scope
    let key ← key.eval host scope
    evaluate (v.item takeItem key)
  | .call f args => do
    let f ← f.eval host scope
    let (vs, named) ← args.eval host scope
    call host f vs named
  | .filter e name args _ => do
    let v ← e.eval host scope
    let (vs, named) ← args.eval host scope
    evaluate (applyFilter name v vs named)
  | .unknown e name args place => do
    let _ ← e.eval host scope
    let (_, named) ← args.eval host scope
    match named with
    | [] => lift (.error (.undefined ("No filter named " ++ Text.quoted name ++ " found.")))
    | (key, _) :: _ =>
      lift (Value.badType ("root.<locals>.t_" ++ toString (place + 1)
        ++ "() got an unexpected keyword argument '" ++ key ++ "'"))
  | .unary op e => do
    let v ← e.eval host scope
    lift (op.apply v)
  | .binary op a b => do
    let v ← a.eval host scope
    let w ← b.eval host scope
    lift (op.apply v w)
  | .and a b => do
    let v ← a.eval host scope
    if ← lift v.truth then b.eval host scope else return v
  | .or a b => do
    let v ← a.eval host scope
    if ← lift v.truth then return v else b.eval host scope
  | .compare e ops operands => do
    let v ← e.eval host scope
    operands.chain host scope v ops
  | .concat items => do
    let (vs, _) ← items.eval host scope
    let ss ← evaluate (vs.mapM (Value.shown takeItem))
    return .text (String.join ss)
  | .cond c a b => do
    let v ← c.eval host scope
    if ← lift v.truth then a.eval host scope else b.eval host scope
  | .when c a line => do
    let v ← c.eval host scope
    if ← lift v.truth then a.eval host scope
    else
      return .omitted ("the inline if-expression on line " ++ toString line
        ++ " evaluated to false and no else section was defined.")

/-- The values of arguments, the positional ones and the named ones. -/
def Args.eval (host : Host σ) (scope : Scope) : Args → Render σ (List Value × NamedValues)
  | .nil => pure ([], [])
  | .positional e rest => do
    let v ← e.eval host scope
    let (vs, named) ← rest.eval host scope
    return (v :: vs, named)
  | .named name e rest => do
    let v ← e.eval host scope
    let (vs, named) ← rest.eval host scope
    return (vs, (name, v) :: named)

/-- The value of a chain of comparisons that begins with a value: an operand is evaluated only if
all comparisons before it hold. -/
def Args.chain (host : Host σ) (scope : Scope) (v : Value) (ops : List Comparison) :
    Args → Render σ Value
  | .nil => pure (.bool true)
  | .positional e rest | .named _ e rest => do
    let w ← e.eval host scope
    match ops with
    | [] => return .bool true
    | op :: ops =>
      let r ← evaluate (op.apply takeItem v w)
      match rest with
      | .nil => return r
      | rest => if ← lift r.truth then rest.chain host scope w ops else return r

end

/-! ## Targets -/

/-- The fault of a value that has no parts. -/
def Value.notUnpacked {α : Type} (v : Value) : Except RenderFault α :=
  Value.badType ("cannot unpack non-iterable " ++ v.typeName ++ " object")

/-- Exactly so many parts of a value. One part more is looked for, so as to refuse it. -/
def Value.parts (count : Nat) (v : Value) : Evaluation (List Value) := do
  let source ← match Source.of v with
    | .error (.crash _) => v.notUnpacked
    | r => r
  let parts ← source.takeMany takeItem (count + 1)
  if parts.length < count then
    Value.badValue ("not enough values to unpack (expected " ++ toString count ++ ", got "
      ++ toString parts.length ++ ")")
  else if count < parts.length then
    Value.badValue ("too many values to unpack (expected " ++ toString count ++ ")")
  else return parts

mutual

/-- Binds a value to a target. -/
def Target.bind (v : Value) (scope : Scope) : Target → Evaluation Scope
  | .name n _ => return (n, v) :: scope
  | .parts ts => do Target.bindEach (← v.parts ts.length) scope ts

/-- Binds values to targets, each to one. -/
def Target.bindEach (vs : List Value) (scope : Scope) : List Target → Evaluation Scope
  | [] => return scope
  | t :: ts => do
    let scope ← t.bind (vs.headD .none) scope
    Target.bindEach vs.tail scope ts

end

/-! ## Blocks -/

/-- Does something for each item of a loop that is still to come, at most so many, and joins the
texts it yields. -/
def forEach (id : Nat) (body : Value → Render σ String) : (limit : Nat) → Render σ String
  | 0 => pure ""
  | limit + 1 => do
    match ← evaluate (Loop.advance takeItem id) with
    | none => return ""
    | some v =>
      let s ← body v
      return s ++ (← forEach id body limit)

/-- How many items a loop over a value has at most. -/
def loopLimit (v : Value) : Evaluation Nat := do
  match v with
  | .stream _ => return (← get).left
  | v => return (← v.items).length

/-- The items for which a condition holds. -/
def selectItems (test : Value → Render σ Bool) : List Value → Render σ (List Value)
  | [] => pure []
  | v :: vs => do
    if ← test v then return v :: (← selectItems test vs) else selectItems test vs

mutual

/-- The text of a part, and the names bound after it. -/
def Node.render (host : Host σ) (scope : Scope) : Node → Render σ (String × Scope)
  | .text s => pure (s, scope)
  | .print e => do
    let v ← e.eval host scope
    return (← evaluate (v.shown takeItem), scope)
  | .cond c yes no => do
    let v ← c.eval host scope
    if ← lift v.truth then yes.render host scope else no.render host scope
  | .loop target items test body empty => do
    let v ← items.eval host scope
    let v ← match test with
      | none => pure v
      | some e =>
        let vs ← evaluate (v.allItems takeItem)
        let vs ← selectItems (fun item ↦ do
          let bound ← evaluate (target.bind item scope)
          lift (← e.eval host bound).truth) vs
        pure (.list vs)
    let loop ← lift (Loop.start v)
    let limit ← evaluate (loopLimit v)
    let id ← evaluate (Memory.addLoop loop)
    if (← evaluate (Loop.look takeItem id)).isNone then
      let (s, _) ← empty.render host scope
      return (s, scope)
    let s ← forEach id (fun item ↦ do
      let bound ← evaluate (target.bind item scope)
      let (s, _) ← body.render host (("loop", .loop id) :: bound)
      return s) limit
    return (s, scope)
  | .assign target e => do
    let v ← e.eval host scope
    return ("", ← evaluate (target.bind v scope))
  | .capture target body => do
    let (s, _) ← body.render host scope
    return ("", ← evaluate (target.bind (.text s) scope))

/-- The text of a block, and the names bound after it. -/
def Block.render (host : Host σ) (scope : Scope) : Block → Render σ (String × Scope)
  | .nil => pure ("", scope)
  | .cons n rest => do
    let (s, scope) ← n.render host scope
    let (t, scope) ← rest.render host scope
    return (s ++ t, scope)

end

/-- The text of a template in a scope. -/
def Block.text (host : Host σ) (scope : Scope) (b : Block) : Render σ String := do
  return (← b.render host scope).1

end DiagramForge.Template
