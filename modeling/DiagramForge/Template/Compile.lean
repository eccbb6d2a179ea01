import DiagramForge.Template.Expr
import DiagramForge.Template.Token

/-!
# Reading templates

Reads the tokens of a template into a block, by recursive descent. A token that cannot stand where
it does is a syntax error on its line; the first such token in reading order is the one reported.

Every function takes the number of steps it may nest. Between two tokens that are read only a
bounded number of functions call each other, so a multiple of the number of tokens is enough.
-/

namespace DiagramForge.Template

/-- Reading from a list of tokens. -/
abbrev Reader := StateT (List Token) (Except CompileFault)

namespace Reader

/-- The next token; at the end of the tokens, one more end. -/
def peek : Reader Token := do
  return (← get).head?.getD ⟨.finish, 1⟩

/-- The kind of the token after the next one. -/
def second : Reader (Option TokenKind) := do
  return (← get).tail.head?.map (·.kind)

/-- Fails on a line. -/
def failAt {α : Type} (line : Nat) : Reader α :=
  throw (.syntaxError line)

/-- Fails on the line of the next token. -/
def fail {α : Type} : Reader α := do
  failAt (← peek).line

/-- Fails if the next token is none, or is a number of too many digits. -/
def checkToken : Reader Unit := do
  match (← peek).kind with
  | .fault => fail
  | .oversized digits => throw (.constant (.crash (Crash.oversized digits)))
  | _ => pure ()

/-- Passes the next token; the end of the tokens is never passed. -/
def advance : Reader Unit := do
  match ← get with
  | _ :: t :: ts => set (t :: ts)
  | _ => pure ()
  checkToken

/-- Whether the next token is of a kind; if it is, it is passed. -/
def skip (kind : TokenKind) : Reader Bool := do
  if (← peek).kind = kind then
    advance
    return true
  return false

/-- Passes a token of a kind, which has to be the next one. -/
def expect (kind : TokenKind) : Reader Unit := do
  if !(← skip kind) then fail

/-- Whether the next token is an operator; if it is, it is passed. -/
def skipOp (s : String) : Reader Bool := skip (.operator s)

/-- Whether the next token is a name; if it is, it is passed. -/
def skipName (s : String) : Reader Bool := skip (.name s)

end Reader

open Reader

/-- Whether an expression list ends before a token. -/
def endsTuple (kind : TokenKind) : Bool :=
  kind = .printEnd || kind = .statementEnd || kind = .operator ")"

/-- The comparison a token stands for. -/
def comparison? : TokenKind → Option Comparison
  | .operator "==" => some .eq
  | .operator "!=" => some .ne
  | .name "in" => some .mem
  | _ => none

/-- The literal a name stands for. -/
def constant? (name : String) : Option Value :=
  if name == "true" || name == "True" then some (.bool true)
  else if name == "false" || name == "False" then some (.bool false)
  else if name == "none" || name == "None" then some .none
  else none

/-- How the items of a tuple are read. -/
inductive ItemKind where
  /-- As expressions, perhaps with conditions. -/
  | full
  /-- As expressions without conditions. -/
  | unconditional
  /-- As primary expressions. -/
  | primary
deriving DecidableEq

mutual

/-- Reads an expression. -/
def expression (fuel : Nat) : Reader Expr :=
  match fuel with
  | 0 => fail
  | fuel + 1 => do
    let line := (← peek).line
    let a ← disjunction fuel
    conditional fuel a line

/-- Reads the conditions after an expression, which begins on a line. -/
def conditional (fuel : Nat) (a : Expr) (line : Nat) : Reader Expr :=
  match fuel with
  | 0 => fail
  | fuel + 1 => do
    if ← skipName "if" then
      let c ← disjunction fuel
      if ← skipName "else" then
        let b ← expression fuel
        conditional fuel (.cond c a b) (← peek).line
      else conditional fuel (.when c a line) (← peek).line
    else return a

/-- Reads alternatives between `or`. -/
def disjunction (fuel : Nat) : Reader Expr :=
  match fuel with
  | 0 => fail
  | fuel + 1 => do
    let a ← conjunction fuel
    moreDisjuncts fuel a

/-- Reads further alternatives. -/
def moreDisjuncts (fuel : Nat) (a : Expr) : Reader Expr :=
  match fuel with
  | 0 => fail
  | fuel + 1 => do
    if ← skipName "or" then
      let b ← conjunction fuel
      moreDisjuncts fuel (.or a b)
    else return a

/-- Reads conditions between `and`. -/
def conjunction (fuel : Nat) : Reader Expr :=
  match fuel with
  | 0 => fail
  | fuel + 1 => do
    let a ← negation fuel
    moreConjuncts fuel a

/-- Reads further conditions. -/
def moreConjuncts (fuel : Nat) (a : Expr) : Reader Expr :=
  match fuel with
  | 0 => fail
  | fuel + 1 => do
    if ← skipName "and" then
      let b ← negation fuel
      moreConjuncts fuel (.and a b)
    else return a

/-- Reads a condition that may be negated. -/
def negation (fuel : Nat) : Reader Expr :=
  match fuel with
  | 0 => fail
  | fuel + 1 => do
    if ← skipName "not" then return .unary .not (← negation fuel)
    else
      let a ← sum fuel
      comparisons fuel a [] .nil

/-- Reads the comparisons after an expression; `ops` and `operands` are those read so far. -/
def comparisons (fuel : Nat) (a : Expr) (ops : List Comparison) (operands : Args) : Reader Expr :=
  match fuel with
  | 0 => fail
  | fuel + 1 => do
    let kind := (← peek).kind
    let next ← second
    let op ← match comparison? kind with
      | some op => do
        advance
        pure (some op)
      | none => do
        if kind = .name "not" && next = some (.name "in") then
          advance
          advance
          pure (some .notMem)
        else pure none
    match op with
    | none => return if ops.isEmpty then a else .compare a ops operands
    | some op =>
      let b ← sum fuel
      comparisons fuel a (ops ++ [op]) (operands.push b)

/-- Reads a sum. -/
def sum (fuel : Nat) : Reader Expr :=
  match fuel with
  | 0 => fail
  | fuel + 1 => do
    let a ← concatenation fuel
    moreSummands fuel a

/-- Reads further summands. -/
def moreSummands (fuel : Nat) (a : Expr) : Reader Expr :=
  match fuel with
  | 0 => fail
  | fuel + 1 => do
    if ← skipOp "+" then
      let b ← concatenation fuel
      moreSummands fuel (.binary .add a b)
    else if ← skipOp "-" then
      let b ← concatenation fuel
      moreSummands fuel (.binary .sub a b)
    else return a

/-- Reads texts between `~`. -/
def concatenation (fuel : Nat) : Reader Expr :=
  match fuel with
  | 0 => fail
  | fuel + 1 => do
    let a ← product fuel
    moreTexts fuel (.positional a .nil)

/-- Reads further texts. -/
def moreTexts (fuel : Nat) (items : Args) : Reader Expr :=
  match fuel with
  | 0 => fail
  | fuel + 1 => do
    if ← skipOp "~" then
      let b ← product fuel
      moreTexts fuel (items.push b)
    else
      match items with
      | .positional a .nil => return a
      | items => return .concat items

/-- Reads a product. -/
def product (fuel : Nat) : Reader Expr :=
  match fuel with
  | 0 => fail
  | fuel + 1 => do
    let a ← unary fuel true
    moreFactors fuel a

/-- Reads further factors. -/
def moreFactors (fuel : Nat) (a : Expr) : Reader Expr :=
  match fuel with
  | 0 => fail
  | fuel + 1 => do
    if ← skipOp "*" then
      let b ← unary fuel true
      moreFactors fuel (.binary .mul a b)
    else return a

/-- Reads a primary expression with its signs and parts, and with filters if it may have some. -/
def unary (fuel : Nat) (filtered : Bool) : Reader Expr :=
  match fuel with
  | 0 => fail
  | fuel + 1 => do
    let e ←
      if ← skipOp "-" then pure (.unary .minus (← unary fuel false))
      else if ← skipOp "+" then pure (.unary .plus (← unary fuel false))
      else primary fuel
    let e ← parts fuel e
    if filtered then filters fuel e else return e

/-- Reads a primary expression. -/
def primary (fuel : Nat) : Reader Expr :=
  match fuel with
  | 0 => fail
  | fuel + 1 => do
    let line := (← peek).line
    match (← peek).kind with
    | .name n =>
      advance
      match constant? n with
      | some v => return .literal v
      | none => return .name n line
    | .text s =>
      advance
      moreLiterals fuel s
    | .int n =>
      advance
      return .literal (.int n)
    | .operator "(" =>
      advance
      let e ← tuple fuel .full true
      expect (.operator ")")
      return e
    | .operator "[" =>
      advance
      return .list (← listItems fuel .nil)
    | .operator "\x7b" =>
      advance
      return .dict (← dictItems fuel .nil)
    | _ => fail

/-- Reads text literals that follow each other, as one. -/
def moreLiterals (fuel : Nat) (s : String) : Reader Expr :=
  match fuel with
  | 0 => fail
  | fuel + 1 => do
    match (← peek).kind with
    | .text t =>
      advance
      moreLiterals fuel (s ++ t)
    | _ => return .literal (.text s)

/-- Reads the items of a list up to its bracket. -/
def listItems (fuel : Nat) (items : Args) : Reader Args :=
  match fuel with
  | 0 => fail
  | fuel + 1 => do
    if ← skipOp "]" then return items
    match items with
    | .nil => pure ()
    | _ =>
      expect (.operator ",")
      if ← skipOp "]" then return items
    listItems fuel (items.push (← expression fuel))

/-- Reads the entries of a dictionary up to its brace, as keys and values in turn. -/
def dictItems (fuel : Nat) (entries : Args) : Reader Args :=
  match fuel with
  | 0 => fail
  | fuel + 1 => do
    if ← skipOp "\x7d" then return entries
    match entries with
    | .nil => pure ()
    | _ =>
      expect (.operator ",")
      if ← skipOp "\x7d" then return entries
    let key ← expression fuel
    expect (.operator ":")
    let value ← expression fuel
    dictItems fuel ((entries.push key).push value)

/-- Reads one expression, or several between commas as a tuple. Inside brackets there may be
none. -/
def tuple (fuel : Nat) (kind : ItemKind) (bracketed : Bool) : Reader Expr :=
  match fuel with
  | 0 => fail
  | fuel + 1 => do
    let line := (← peek).line
    if endsTuple (← peek).kind then
      if bracketed then return .tuple .nil line else fail
    else
      let e ← tupleItem fuel kind
      if (← peek).kind = .operator "," then tupleItems fuel kind (.positional e .nil)
      else return e

/-- Reads an item of a tuple. -/
def tupleItem (fuel : Nat) (kind : ItemKind) : Reader Expr :=
  match fuel with
  | 0 => fail
  | fuel + 1 =>
    match kind with
    | .full => expression fuel
    | .unconditional => disjunction fuel
    | .primary => primary fuel

/-- Reads the further items of a tuple, of which the next token is a comma. The line of a tuple is
that of its last comma. -/
def tupleItems (fuel : Nat) (kind : ItemKind) (items : Args) : Reader Expr :=
  match fuel with
  | 0 => fail
  | fuel + 1 => do
    let line := (← peek).line
    expect (.operator ",")
    if endsTuple (← peek).kind then return .tuple items line
    let items := items.push (← tupleItem fuel kind)
    if (← peek).kind = .operator "," then tupleItems fuel kind items
    else return .tuple items line

/-- Reads the attributes, items and calls after an expression. -/
def parts (fuel : Nat) (e : Expr) : Reader Expr :=
  match fuel with
  | 0 => fail
  | fuel + 1 => do
    if ← skipOp "." then
      let line := (← peek).line
      match (← peek).kind with
      | .name n =>
        advance
        parts fuel (.field e n)
      | .int n =>
        advance
        parts fuel (.item e (.literal (.int n)))
      | _ =>
        advance
        failAt line
    else
      let line := (← peek).line
      if ← skipOp "[" then
        match ← keys fuel .nil with
        | .positional key .nil => parts fuel (.item e key)
        | several => parts fuel (.item e (.tuple several line))
      else if (← peek).kind = .operator "(" then parts fuel (.call e (← callArgs fuel))
      else return e

/-- Reads the keys of an item up to the bracket. -/
def keys (fuel : Nat) (read : Args) : Reader Args :=
  match fuel with
  | 0 => fail
  | fuel + 1 => do
    if ← skipOp "]" then return read
    match read with
    | .nil => pure ()
    | _ => expect (.operator ",")
    keys fuel (read.push (← expression fuel))

/-- Reads the arguments of a call with their brackets. -/
def callArgs (fuel : Nat) : Reader Args :=
  match fuel with
  | 0 => fail
  | fuel + 1 => do
    let line := (← peek).line
    expect (.operator "(")
    arguments fuel line .nil false

/-- Reads the arguments of a call up to its bracket; positional arguments come before named ones.
A call with arguments in another order is at fault on the line of its opening bracket. -/
def arguments (fuel : Nat) (line : Nat) (args : Args) (sawNamed : Bool) : Reader Args :=
  match fuel with
  | 0 => fail
  | fuel + 1 => do
    if ← skipOp ")" then return args
    match args with
    | .nil => pure ()
    | _ =>
      expect (.operator ",")
      if ← skipOp ")" then return args
    match (← peek).kind, ← second with
    | .name n, some (.operator "=") =>
      advance
      advance
      let e ← expression fuel
      arguments fuel line (args.pushNamed n e) true
    | _, _ =>
      if sawNamed then failAt line
      else arguments fuel line (args.push (← expression fuel)) false

/-- Reads the filters and calls after an expression. -/
def filters (fuel : Nat) (e : Expr) : Reader Expr :=
  match fuel with
  | 0 => fail
  | fuel + 1 => do
    if ← skipOp "|" then
      let line := (← peek).line
      let name ← filterName fuel
      let args ← if (← peek).kind = .operator "(" then callArgs fuel else pure .nil
      filters fuel (.filter e name args line)
    else if (← peek).kind = .operator "(" then filters fuel (.call e (← callArgs fuel))
    else return e

/-- Reads the name of a filter, which may have several parts. -/
def filterName (fuel : Nat) : Reader String :=
  match fuel with
  | 0 => fail
  | fuel + 1 => do
    match (← peek).kind with
    | .name n =>
      advance
      if ← skipOp "." then return n ++ "." ++ (← filterName fuel) else return n
    | _ => fail

end

/-! ## Targets -/

mutual

/-- What an expression is as a target, if it can be one. -/
def Expr.target? : Expr → Option Target
  | .name n line => some (.name n line)
  | .tuple items _ => items.targets?.map .parts
  | _ => none

/-- What expressions are as targets, if they can all be one. -/
def Args.targets? : Args → Option (List Target)
  | .nil => some []
  | .positional e rest | .named _ e rest =>
    match e.target?, rest.targets? with
    | some t, some ts => some (t :: ts)
    | _, _ => none

end

/-- Reads a target. -/
def readTarget (fuel : Nat) : Reader Target := do
  let line := (← peek).line
  let e ← tuple fuel .primary false
  match e.target?, e with
  | some t, _ => return t
  | none, .tuple _ line => failAt line
  | none, _ => failAt line

/-! ## Statements -/

mutual

/-- Reads a block up to a statement whose first word is one of `endings`, or up to the end of the
template if there are none. -/
def block (fuel : Nat) (endings : List String) : Reader Block :=
  match fuel with
  | 0 => fail
  | fuel + 1 => do
    match (← peek).kind with
    | .data s =>
      advance
      return .cons (.text s) (← block fuel endings)
    | .printStart =>
      advance
      let e ← tuple fuel .full false
      expect .printEnd
      return .cons (.print e) (← block fuel endings)
    | .statementStart =>
      advance
      match (← peek).kind with
      | .name n =>
        if endings.contains n then return .nil
        let node ← statement fuel n
        expect .statementEnd
        return .cons node (← block fuel endings)
      | _ => fail
    | _ => if endings.isEmpty then return .nil else fail

/-- Reads a statement that begins with a word. -/
def statement (fuel : Nat) (word : String) : Reader Node :=
  match fuel with
  | 0 => fail
  | fuel + 1 => do
    if word == "if" then
      advance
      branches fuel
    else if word == "for" then
      advance
      let target ← readTarget fuel
      expect (.name "in")
      let items ← tuple fuel .unconditional false
      let test ← if ← skipName "if" then some <$> expression fuel else pure none
      let body ← inner fuel ["endfor", "else"]
      if ← skipName "endfor" then return .loop target items test body .nil
      else
        advance
        let empty ← inner fuel ["endfor"]
        advance
        return .loop target items test body empty
    else if word == "set" then
      advance
      let target ← readTarget fuel
      if ← skipOp "=" then return .assign target (← tuple fuel .full false)
      else
        let body ← inner fuel ["endset"]
        advance
        return .capture target body
    else fail

/-- Reads a condition, the block it guards and the branches after it. -/
def branches (fuel : Nat) : Reader Node :=
  match fuel with
  | 0 => fail
  | fuel + 1 => do
    let c ← tuple fuel .unconditional false
    let yes ← inner fuel ["elif", "else", "endif"]
    if ← skipName "elif" then return .cond c yes (.cons (← branches fuel) .nil)
    else if ← skipName "else" then
      let no ← inner fuel ["endif"]
      advance
      return .cond c yes no
    else
      advance
      return .cond c yes .nil

/-- Reads the rest of a statement's tag and the block after it. -/
def inner (fuel : Nat) (endings : List String) : Reader Block :=
  match fuel with
  | 0 => fail
  | fuel + 1 => do
    let _ ← skipOp ":"
    expect .statementEnd
    block fuel endings

end

/-- The number of functions that can call each other between two tokens. -/
def nesting : Nat := 24

/-- Reads a template. -/
def Block.ofSource (source : String) : Except CompileFault Block :=
  let ts := tokens source
  let reader : Reader Block := do
    checkToken
    block (nesting * (ts.length + 1)) []
  (reader.run ts).map (·.1)

end DiagramForge.Template
