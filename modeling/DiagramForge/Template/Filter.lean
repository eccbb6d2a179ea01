import DiagramForge.Template.Method
import DiagramForge.Text.Digit

/-!
# Filters

The functions that `value|name(…)` passes a value through. All but `map` are done when they are
met; `map` makes a stream, and what it is asked to do to an item is done when the item is taken.
A filter may therefore take items from a stream whose items come from filters in turn: filters are
written against a `Taker`, and `takeItem` ties the knot by the depth of streams in streams.
-/

namespace DiagramForge.Template

/-! ## The filters -/

/-- A filter: what it can be called with, and its result from the value and the arguments. -/
structure Filter where
  /-- What a call can give besides the value. -/
  signature : Signature
  /-- The result. -/
  apply : Taker → Value → List Value → Evaluation Value

/-- The text of a value as texts show it. -/
def Value.shown (taker : Taker) (v : Value) : Evaluation String :=
  match v with
  | .loop id => Loop.display taker id
  | v => v.display

/-- The text of a value, a text standing for itself even if it is one of a choice. -/
def Value.softText (taker : Taker) (v : Value) : Evaluation String :=
  match v.text? with
  | some s => return s
  | Option.none => v.shown taker

/-- The texts of what becomes of the items of a source, joined. -/
def joinItems (taker : Taker) (sep : String) (f : Value → Evaluation Value) (s : Source) :
    Evaluation Value := do
  return .text (Text.joinStrings sep (← s.mapAll taker fun v ↦ do (← f v).shown taker))

/-- The keys that a description of a path consists of. -/
def pathKeys (v : Value) : List Value :=
  match v with
  | .none => []
  | v =>
    match v.text? with
    | none => [v]
    | some s =>
      (Text.fieldStrings (· == '.') s).map fun part ↦
        match Text.decimal? part with
        | some n => .int n
        | none => .text part

/-- The value without the last item, or why there is none. -/
def emptySequence (position : String) : Value :=
  .undefined ("No " ++ position ++ " item, sequence was empty.")

/-- The last item of a value whose end can be found. -/
def lastItem (v : Value) : Except RenderFault Value :=
  match v with
  | .stream _ | .record .. | .loop _ =>
    Value.badType ("'" ++ v.typeName ++ "' object is not reversible")
  | v =>
    match v.items with
    | .ok vs => .ok (vs.getLast?.getD (emptySequence "last"))
    | .error (.undefined reason) => .error (.undefined reason)
    | .error _ => Value.badType ("'" ++ v.typeName ++ "' object is not reversible")

/-- The number of items of a value. -/
def Value.length (taker : Taker) (v : Value) : Evaluation Nat :=
  match v with
  | .loop id => Loop.length taker id
  | v => v.size

namespace Filter

/-- A filter that takes nothing besides the value, `given` values standing in front of that. -/
def plain (label : String) (given : Nat) (apply : Taker → Value → Evaluation Value) : Filter :=
  ⟨⟨label, [], given, false⟩, fun taker v _ ↦ apply taker v⟩

/-- A filter that converts texts. -/
def conversion (label : String) (f : String → String) : Filter :=
  plain label 1 fun taker v ↦ do return .text (f (← v.softText taker))

/-- The items of a value as a list. -/
def toList : Filter :=
  plain "sync_do_list" 1 fun taker v ↦ do return .list (← v.allItems taker)

/-- The texts of the items of a value, joined. -/
def join : Filter :=
  ⟨⟨"sync_do_join", [⟨"d", some (.text "")⟩, ⟨"attribute", some .none⟩], 2, false⟩,
    fun taker v args ↦ do
      let sep := args.head?.getD (.text "")
      match args[1]?.getD .none with
      | .none =>
        let sep ← sep.shown taker
        joinItems taker sep pure (← Source.of v)
      | key =>
        let source ← Source.of v
        let sep ← sep.shown taker
        joinItems taker sep (fun item ↦ item.along taker none (pathKeys key)) source⟩

/-- A text with occurrences of another replaced. -/
def replace : Filter :=
  ⟨⟨"do_replace", [⟨"old", none⟩, ⟨"new", none⟩, ⟨"count", some .none⟩], 2, false⟩,
    fun taker v args ↦ do
      match args with
      | [old, new, count] =>
        let s ← v.shown taker
        let old ← old.shown taker
        let new ← new.shown taker
        let limit ← match count with
          | .none => pure none
          | count => limitOf count
        return .text (replaceText old new limit s)
      | _ => return v⟩

/-- The first item of a value. -/
def first : Filter :=
  plain "sync_do_first" 2 fun taker v ↦ do
    let taken ← (← Source.of v).take taker
    return (taken.map (·.1)).getD (emptySequence "first")

/-- The last item of a value. -/
def last : Filter :=
  plain "do_last" 2 fun _ v ↦ lastItem v

/-- The filters that are done at once, other than the one for the length. -/
def all : List (String × Filter) :=
  [("list", toList), ("join", join), ("replace", replace), ("first", first), ("last", last),
    ("upper", conversion "do_upper" Text.upperString),
    ("lower", conversion "do_lower" Text.lowerString)]

end Filter

/-- The names of the filter for the length. -/
def lengthFilters : List String :=
  ["length", "count"]

/-- The filters there are. -/
def filterNames : List String :=
  "map" :: lengthFilters ++ Filter.all.map (·.1)

/-! ## Streams -/

/-- What `map` is asked to do to each item. -/
def conversionOf (args : List Value) (named : NamedValues) : Except RenderFault Conversion :=
  match args, Entries.get? named "attribute" with
  | [], some key =>
    let default := match (Entries.get? named "default").getD .none with
      | .none => none
      | v => some v
    match Entries.erase (Entries.erase named "attribute") "default" with
    | [] => .ok (.path (pathKeys key) default)
    | (name, _) :: _ =>
      .error (.undefined ("Unexpected keyword argument " ++ Text.quoted name))
  | [], none => .error (.undefined "map requires a filter argument")
  | name :: args, _ => .ok (.filter name args named)

/-- Where the items of a stream come from, and what becomes of them. Whatever is wrong is kept for
the time when an item is taken. -/
def streamOf (v : Value) (args : List Value) (named : NamedValues) : Stream :=
  let conversion := conversionOf args named
  let source : Except RenderFault Source := do
    if ← v.truth then
      let _ ← conversion
      Source.of v
    else return .items []
  ⟨source, conversion.toOption.getD (.path [] none)⟩

/-! ## Passing a value through a filter -/

/-- The value that a filter makes of another. -/
def passThrough (taker : Taker) (name : String) (v : Value) (args : List Value)
    (named : NamedValues) : Evaluation Value := do
  if name == "map" then Memory.addStream (streamOf v args named)
  else if lengthFilters.contains name then
    let v ← exactlyOne "len" (v :: args) named
    return .int (← v.length taker)
  else
    match Entries.get? Filter.all name with
    | some filter => filter.apply taker v (← filter.signature.values args named)
    | none =>
      throw (.undefined ("No filter named " ++ Text.quoted name ++ "."))

/-- The value that a filter makes of another, the filter being named by a value. -/
def passThroughNamed (taker : Taker) (name v : Value) (args : List Value) (named : NamedValues) :
    Evaluation Value := do
  name.checkKey
  match name.text? with
  | some known =>
    if filterNames.contains known then passThrough taker known v args named
    else throw (.undefined ("No filter named " ++ name.showInner ++ "."))
  | none =>
    let hint := match name with
      | .omitted reason => " (" ++ reason ++ "; did you forget to quote the callable name?)"
      | _ => ""
    throw (.undefined ("No filter named " ++ name.showInner ++ "." ++ hint))

/-- What a conversion makes of an item. -/
def Conversion.apply (taker : Taker) (c : Conversion) (v : Value) : Evaluation Value :=
  match c with
  | .path keys default => v.along taker default keys
  | .filter name args named => passThroughNamed taker name v args named

/-- Takes the next item of a stream; streams may be made from each other at most so deep. -/
def takeAt : (depth : Nat) → Taker
  | 0 => fun _ ↦ throw Memory.tooDeep
  | depth + 1 => Memory.step (Conversion.apply (takeAt depth)) (takeAt depth)

/-- Takes the next item of a stream. -/
def takeItem : Taker :=
  takeAt Memory.streamDepth

/-- The value that a filter makes of another. -/
def applyFilter (name : String) (v : Value) (args : List Value) (named : NamedValues) :
    Evaluation Value :=
  passThrough takeItem name v args named

end DiagramForge.Template
