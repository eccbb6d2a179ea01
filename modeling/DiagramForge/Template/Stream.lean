import DiagramForge.Template.Value

/-!
# Streams and loops

Two kinds of value change while a template is rendered: a stream, whose items are made when they
are asked for and can be taken once, and a loop, which tells its body how far it has come. Both are
places of a `Memory`, which evaluation passes along.

A stream makes its items from those of a source by a conversion. Nothing that can go wrong with
that is reported before an item is taken, and of a stream nobody goes through nothing ever is.
What a conversion does to an item is left open here: filters define it in terms of `Memory.take`.
-/

namespace DiagramForge.Template

/-! ## Memory -/

/-- Where items come from. -/
inductive Source where
  /-- Items that are known. -/
  | items (rest : List Value)
  /-- The items of a stream. -/
  | stream (id : Nat)
deriving Inhabited

/-- What a stream makes of each item of its source. -/
inductive Conversion where
  /-- The part of the item along a path of keys; a part that is lacking is replaced by a value, if
  there is one for that. -/
  | path (keys : List Value) (default : Option Value)
  /-- The item passed through a filter. -/
  | filter (name : Value) (args : List Value) (named : NamedValues)
deriving Inhabited

/-- A stream. -/
structure Stream where
  /-- Where its items come from, or why it has none. -/
  source : Except RenderFault Source
  /-- What becomes of them. -/
  conversion : Conversion

/-- How far a loop has come. -/
structure Loop where
  /-- Where the further items come from. -/
  source : Source
  /-- How many items there are in all, if it is known. -/
  size : Option Nat
  /-- How many items have been taken. -/
  taken : Nat := 0
  /-- The item before the present one. -/
  before : Option Value := none
  /-- The present item. -/
  current : Option Value := none
  /-- The next item, if it has been looked at already. -/
  next : Option (Option Value) := none
  /-- The values it was last asked about whether they have changed. -/
  seen : Option (List Value) := none

/-- The streams and loops there are, each found by its place. -/
structure Memory where
  /-- The streams. -/
  streams : Array Stream := #[]
  /-- The loops. -/
  loops : Array Loop := #[]

/-- What can fail and works with streams and loops. -/
abbrev Evaluation := ExceptT RenderFault (StateM Memory)

/-- A helper function: positional and named arguments to a value, or a fault. -/
abbrev Helper := List Value → NamedValues → Evaluation Value

namespace Evaluation

/-- A result that does not involve the memory. -/
def lift {α : Type} (r : Except RenderFault α) : Evaluation α :=
  ExceptT.mk (pure r)

/-- The value of an evaluation that begins without streams and loops. -/
def result {α : Type} (e : Evaluation α) : Except RenderFault α :=
  (e.run {}).run.1

end Evaluation

instance : MonadLift (Except RenderFault) Evaluation := ⟨Evaluation.lift⟩

namespace Memory

/-- Adds a stream, and its place. -/
def addStream (s : Stream) : Evaluation Value :=
  modifyGet fun m ↦ (.stream m.streams.size, { m with streams := m.streams.push s })

/-- Adds a loop, and its place. -/
def addLoop (l : Loop) : Evaluation Nat :=
  modifyGet fun m ↦ (m.loops.size, { m with loops := m.loops.push l })

/-- The number of items that are still to come from any of the sources: no stream has more. -/
def left (m : Memory) : Nat :=
  m.streams.foldl (fun n s ↦
    match s.source with
    | .ok (.items rest) => n + rest.length
    | _ => n) 0

/-- How deep streams may be made from each other. -/
def streamDepth : Nat := 300

/-- The fault of streams that are made from each other too deep. -/
def tooDeep : RenderFault :=
  .crash ⟨"RecursionError", "maximum recursion depth exceeded"⟩

end Memory

/-! ## Taking items -/

/-- How the next item of a stream is taken; there is none at its end. -/
abbrev Taker := Nat → Evaluation (Option Value)

/-- The next item of a stream, `convert` being what becomes of an item and `inner` how an item of
another stream is taken. -/
def Memory.step (convert : Conversion → Value → Evaluation Value) (inner : Taker) : Taker :=
  fun id ↦ do
    match (← get).streams[id]? with
    | none => return none
    | some s =>
      match ← s.source with
      | .items [] => return none
      | .items (v :: rest) =>
        modify fun m ↦
          { m with streams := m.streams.modify id fun s ↦ { s with source := .ok (.items rest) } }
        return some (← convert s.conversion v)
      | .stream other =>
        match ← inner other with
        | some v => return some (← convert s.conversion v)
        | none => return none

/-- The next item of a source, and the source after it. -/
def Source.take (taker : Taker) : Source → Evaluation (Option (Value × Source))
  | .items [] => return none
  | .items (v :: rest) => return some (v, .items rest)
  | .stream id => do return (← taker id).map (·, .stream id)

/-- Where the items of a value come from. -/
def Source.of (v : Value) : Except RenderFault Source :=
  match v with
  | .stream id => .ok (.stream id)
  | v => .items <$> v.items

/-- At most so many items of a source. -/
def Source.takeMany (taker : Taker) : Nat → Source → Evaluation (List Value)
  | 0, _ => return []
  | n + 1, s => do
    match ← s.take taker with
    | none => return []
    | some (v, s) => return v :: (← s.takeMany taker n)

/-- All items of a source. -/
def Source.all (taker : Taker) (s : Source) : Evaluation (List Value) := do
  match s with
  | .items vs => return vs
  | s => s.takeMany taker (← get).left

/-- What becomes of at most so many items of a source, each before the next one is taken. -/
def Source.mapMany {α : Type} (taker : Taker) (f : Value → Evaluation α) :
    Nat → Source → Evaluation (List α)
  | 0, _ => return []
  | n + 1, s => do
    match ← s.take taker with
    | none => return []
    | some (v, s) =>
      let a ← f v
      return a :: (← s.mapMany taker f n)

/-- What becomes of all items of a source, each before the next one is taken. -/
def Source.mapAll {α : Type} (taker : Taker) (f : Value → Evaluation α) (s : Source) :
    Evaluation (List α) := do
  match s with
  | .items vs => vs.mapM f
  | s => s.mapMany taker f (← get).left

/-- All items of a value. -/
def Value.allItems (taker : Taker) (v : Value) : Evaluation (List Value) := do
  (← Source.of v).all taker

/-- Whether an item among the next ones of a stream equals a value; the items up to it are
taken. -/
def Source.has (taker : Taker) (v : Value) : Nat → Source → Evaluation Bool
  | 0, _ => return false
  | n + 1, s => do
    match ← s.take taker with
    | none => return false
    | some (w, s) => if ← w.equal v then return true else s.has taker v n

/-- Whether a value occurs in another. -/
def Value.occursAmong (taker : Taker) (v container : Value) : Evaluation Bool := do
  match container with
  | .stream id => Source.has taker v (← get).left (.stream id)
  | container => v.occursIn container

/-! ## Loops -/

namespace Loop

/-- A loop before its first item. -/
def start (v : Value) : Except RenderFault Loop := do
  return { source := ← Source.of v, size := v.size.toOption }

/-- A loop at a place. -/
def get? (id : Nat) : Evaluation (Option Loop) := do
  return (← get).loops[id]?

/-- Replaces the loop at a place. -/
def put (id : Nat) (l : Loop) : Evaluation Unit :=
  modify fun m ↦ { m with loops := m.loops.modify id fun _ ↦ l }

/-- Looks at the next item of a loop without going on. -/
def look (taker : Taker) (id : Nat) : Evaluation (Option Value) := do
  match ← get? id with
  | none => return none
  | some l =>
    match l.next with
    | some v => return v
    | none =>
      let taken ← l.source.take taker
      let source := (taken.map (·.2)).getD (.items [])
      put id { l with source, next := some (taken.map (·.1)) }
      return taken.map (·.1)

/-- Goes on to the next item of a loop, if there is one. -/
def advance (taker : Taker) (id : Nat) : Evaluation (Option Value) := do
  let found ← look taker id
  match found, ← get? id with
  | some v, some l =>
    put id { l with taken := l.taken + 1, before := l.current, current := some v, next := none }
    return some v
  | _, _ => return none

/-- The number of items of a loop. It is found by taking all that are left, if need be. -/
def length (taker : Taker) (id : Nat) : Evaluation Nat := do
  match ← get? id with
  | none => return 0
  | some l =>
    match l.size with
    | some n => return n
    | none =>
      let rest ← l.source.all taker
      let looked := match l.next with
        | some (some _) => 1
        | _ => 0
      let n := rest.length + l.taken + looked
      put id { l with source := .items rest, size := some n }
      return n

/-- The attribute of a loop with a name, if it has one. -/
def field? (taker : Taker) (id : Nat) (name : String) : Evaluation (Option Value) := do
  match ← get? id with
  | none => return none
  | some l =>
    let index : Int := l.taken
    match name with
    | "index" => return some (.int index)
    | "index0" => return some (.int (index - 1))
    | "depth" => return some (.int 1)
    | "depth0" => return some (.int 0)
    | "first" => return some (.bool (l.taken == 1))
    | "last" => return some (.bool (← look taker id).isNone)
    | "length" => return some (.int (← length taker id))
    | "revindex" => return some (.int ((← length taker id) - index + 1))
    | "revindex0" => return some (.int ((← length taker id) - index))
    | "previtem" =>
      return some ((l.before).getD (.undefined "there is no previous item"))
    | "nextitem" =>
      return some ((← look taker id).getD (.undefined "there is no next item"))
    | "cycle" | "changed" => return some (.method (.loop id) name)
    | _ => return none

/-- A loop as a text shows it. -/
def display (taker : Taker) (id : Nat) : Evaluation String := do
  let taken := ((← get? id).map (·.taken)).getD 0
  return "<LoopContext " ++ ToString.toString taken ++ "/"
    ++ ToString.toString (← length taker id) ++ ">"

end Loop

end DiagramForge.Template
