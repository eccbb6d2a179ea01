import DiagramForge.Template.Operation
import DiagramForge.Template.Signature
import DiagramForge.Template.Stream
import DiagramForge.Text.Case

/-!
# Attributes and methods of values

The attributes of a value are its fields and its methods. An expression `v.name` asks for an
attribute first and for an entry second, `v[key]` the other way round; what has neither is
undefined.
-/

namespace DiagramForge.Template

/-! ## Attributes -/

namespace Value

/-- The methods of texts. -/
def textMethods : List String :=
  ["capitalize", "casefold", "center", "count", "encode", "endswith", "expandtabs", "find",
    "format", "format_map", "index", "isalnum", "isalpha", "isascii", "isdecimal", "isdigit",
    "isidentifier", "islower", "isnumeric", "isprintable", "isspace", "istitle", "isupper",
    "join", "ljust", "lower", "lstrip", "maketrans", "partition", "removeprefix", "removesuffix",
    "replace", "rfind", "rindex", "rjust", "rpartition", "rsplit", "rstrip", "split",
    "splitlines", "startswith", "strip", "swapcase", "title", "translate", "upper", "zfill"]

/-- The methods of a value, other than those that look up a record. -/
def methods : Value → List String
  | text _ | choice .. => textMethods
  | list _ =>
    ["append", "clear", "copy", "count", "extend", "index", "insert", "pop", "remove", "reverse",
      "sort"]
  | tuple _ | range .. => ["count", "index"]
  | mapping .plain _ =>
    ["clear", "copy", "fromkeys", "get", "items", "keys", "pop", "popitem", "setdefault",
      "update", "values"]
  | mapping .fixed _ => ["copy", "get", "items", "keys", "values"]
  | stream _ => ["close", "send", "throw"]
  | _ => []

/-- The attribute of a value that does not change, if it has one of that name. -/
def attribute? (v : Value) (name : String) : Option Value :=
  let own : Option Value := match v with
    | record _ fields derived =>
      (Entries.get? fields name).orElse fun _ ↦ Entries.get? derived name
    | choice _ _ label s =>
      if name == "value" then some (text s) else if name == "name" then some (text label)
      else Option.none
    | range start stop step =>
      Entries.get? [("start", int start), ("stop", int stop), ("step", int step)] name
    | _ => Option.none
  let finders : List String := match v with
    | record kind _ _ => kind.finders.map (·.1)
    | _ => []
  own.orElse fun _ ↦
    if v.methods.contains name || finders.contains name then some (method v name) else Option.none

/-- The attribute of a value; of a loop, what it tells just now. -/
def attributeNow (taker : Taker) (v : Value) (name : String) : Evaluation (Option Value) :=
  match v with
  | loop id => Loop.field? taker id name
  | v => return v.attribute? name

/-- What `v.name` denotes. -/
def field (taker : Taker) (v : Value) (name : String) : Evaluation Value := do
  match v with
  | undefined reason | omitted reason => throw (.undefined reason)
  | v =>
    match ← v.attributeNow taker name with
    | some w => return w
    | Option.none => return (← v.part? (text name)).getD (v.lacks name)

/-- What `v[key]` denotes. -/
def item (taker : Taker) (v key : Value) : Evaluation Value := do
  match ← v.part? key with
  | some w => return w
  | Option.none =>
    match key with
    | text name => return (← v.attributeNow taker name).getD (v.noElement key)
    | key => return v.noElement key

/-- The part of a value along a path of keys; a part that is lacking is replaced by `default`, if
there is one. -/
def along (taker : Taker) (default : Option Value) (v : Value) : List Value → Evaluation Value
  | [] => return v
  | key :: keys => do
    let w ← v.item taker key
    let w := match w, default with
      | undefined _, some d | omitted _, some d => d
      | w, _ => w
    w.along taker default keys

end Value

/-! ## Methods of texts -/

/-- The text that a method of texts needs. -/
def needText (refusal : String) (v : Value) : Except RenderFault String :=
  match v.text? with
  | some s => .ok s
  | none => Value.badType (refusal ++ v.typeName)

/-- The words of a text between separators, at most `limit` cuts being made. -/
def splitAtMark (mark : List Char) : (limit : Nat) → List Char → List (List Char)
  | 0, cs => [cs]
  | limit + 1, cs =>
    match Text.splitFirst? mark cs with
    | some (before, rest) => before :: splitAtMark mark limit rest
    | none => [cs]

/-- The words of a text between blanks, at most `limit` cuts being made. -/
def splitAtBlanks : (limit : Nat) → List Char → List (List Char)
  | 0, cs => if (Text.trimLeft cs).isEmpty then [] else [Text.trimLeft cs]
  | limit + 1, cs =>
    let cs := Text.trimLeft cs
    if cs.isEmpty then []
    else cs.takeWhile (!Text.isBlank ·) :: splitAtBlanks limit (cs.dropWhile (!Text.isBlank ·))

/-- The number of places where a text occurs in another, no two of them overlapping. -/
def occurrences (mark cs : List Char) : Nat :=
  if mark.isEmpty then cs.length + 1 else (splitAtMark mark cs.length cs).length - 1

/-- The texts among which a text has to begin or end with one. -/
def alternatives (name : String) (v : Value) : Except RenderFault (List String) :=
  match v, v.text? with
  | _, some s => .ok [s]
  | .tuple vs, none => .ok (vs.filterMap Value.text?)
  | v, none =>
    Value.badType (name ++ " first arg must be str or a tuple of str, not " ++ v.typeName)

/-- A text without certain characters at its ends; without saying which, without blanks. -/
def stripped (atLeft atRight : Bool) (drop : Option String) (s : String) : String :=
  let dropped (c : Char) := match drop with
    | none => Text.isBlank c
    | some d => d.toList.contains c
  let cs := if atLeft then s.toList.dropWhile dropped else s.toList
  String.ofList (if atRight then (cs.reverse.dropWhile dropped).reverse else cs)

/-- The texts that are joined, each of which has to be one. -/
def joinParts (index : Nat) : List Value → Except RenderFault (List String)
  | [] => .ok []
  | v :: vs => do
    match v.text? with
    | some s => return s :: (← joinParts (index + 1) vs)
    | none =>
      Value.badType ("sequence item " ++ ToString.toString index ++ ": expected str instance, "
        ++ v.typeName ++ " found")

/-- Calls a method of a text. -/
def callTextMethod (taker : Taker) (s name : String) (args : List Value) (named : NamedValues) :
    Evaluation Value := do
  let label := "str." ++ name
  let convert (f : String → Value) : Evaluation Value := do
    refuseAll label args named
    return f s
  let all (p : Char → Bool) : Evaluation Value :=
    convert fun s ↦ .bool (!s.isEmpty && s.toList.all p)
  let strip (atLeft atRight : Bool) : Evaluation Value := do
    let drop ← match ← between label name 0 1 args named with
      | [] | [.none] => pure none
      | v :: _ =>
        match v.text? with
        | some d => pure (some d)
        | none => Value.badType (name ++ " arg must be None or str")
    return .text (stripped atLeft atRight drop s)
  let search : Evaluation String := do
    refuseNamed label named
    match args with
    | [] => Value.badType (name ++ "() takes at least 1 argument (0 given)")
    | v :: _ => needText "must be str, not " v
  match name with
  | "upper" => convert fun s ↦ .text (Text.upperString s)
  | "lower" | "casefold" => convert fun s ↦ .text (Text.lowerString s)
  | "capitalize" => convert fun s ↦ .text (String.ofList (Text.capitalize s.toList))
  | "isspace" => all Text.isBlank
  | "isalnum" => all fun c ↦ c != '_' && Text.isWordChar c
  | "isprintable" => convert fun s ↦ .bool (s.toList.all Text.isPrintable)
  | "isascii" => convert fun s ↦ .bool (s.toList.all Text.isAscii)
  | "strip" => strip true true
  | "lstrip" => strip true false
  | "rstrip" => strip false true
  | "replace" =>
    match ← between label name 2 3 args named with
    | old :: new :: count =>
      let part (place : String) (v : Value) :=
        needText (name ++ "() argument " ++ place ++ " must be str, not ") v
      let old ← part "1" old
      let new ← part "2" new
      let limit ← match count with
        | v :: _ => limitOf v
        | [] => pure none
      return .text (replaceText old new limit s)
    | _ => return .text s
  | "join" =>
    let v ← exactlyOne label args named
    match Source.of v with
    | .error (.undefined reason) => throw (.undefined reason)
    | .error _ => Value.badType "can only join an iterable"
    | .ok source => return .text (Text.joinStrings s (← joinParts 0 (← source.all taker)))
  | "split" =>
    let signature : Signature := ⟨name, [⟨"sep", some .none⟩, ⟨"maxsplit", some (.int (-1))⟩], 0, false⟩
    match ← signature.values args named with
    | [sep, limit] =>
      let limit := (← limitOf limit).getD s.length
      match sep with
      | .none =>
        return .texts ((splitAtBlanks limit s.toList).map String.ofList)
      | sep =>
        let mark ← needText "must be str or None, not " sep
        if mark.isEmpty then Value.badValue "empty separator"
        return .texts ((splitAtMark mark.toList limit s.toList).map String.ofList)
    | _ => return .list []
  | "startswith" | "endswith" =>
    refuseNamed label named
    match args with
    | [] => Value.badType (name ++ "() takes at least 1 argument (0 given)")
    | v :: _ =>
      let marks ← alternatives name v
      return .bool (marks.any fun m ↦
        if name == "startswith" then (Text.after? m.toList s.toList).isSome
        else (Text.after? m.toList.reverse s.toList.reverse).isSome)
  | "count" => return .int (occurrences (← search).toList s.toList)
  | "find" | "index" =>
    match Text.splitFirst? (← search).toList s.toList with
    | some (before, _) => return .int before.length
    | none =>
      if name == "find" then return .int (-1) else Value.badValue "substring not found"
  | name => throw (.crash ⟨"AttributeError", "'str' object has no attribute '" ++ name ++ "'"⟩)

/-! ## Methods of sequences, dictionaries and records -/

/-- Calls a method of a sequence. -/
def callSequenceMethod (v : Value) (items : List Value) (name : String) (args : List Value)
    (named : NamedValues) : Except RenderFault Value := do
  let label := v.typeName ++ "." ++ name
  match name with
  | "count" =>
    let w ← exactlyOne label args named
    return .int (← items.filterM fun x ↦ x.equal w).length
  | "index" =>
    match ← between label name 1 3 args named with
    | w :: _ =>
      match ← items.zipIdx.findM? fun e ↦ e.1.equal w with
      | some (_, i) => return .int i
      | none =>
        Value.badValue <|
          match v with
          | .list _ => w.showInner ++ " is not in list"
          | v => v.typeName ++ ".index(x): x not in " ++ v.typeName
    | [] => return .none
  | "copy" =>
    refuseAll label args named
    return v
  | name => v.noAttribute name

/-- Calls a method of a dictionary. -/
def callDictMethod (v : Value) (entries : List (Value × Value)) (name : String)
    (args : List Value) (named : NamedValues) : Except RenderFault Value := do
  let label := v.typeName ++ "." ++ name
  let view (part : DictPart) : Except RenderFault Value := do
    refuseAll label args named
    return .view part entries
  match name with
  | "items" => view .items
  | "keys" => view .keys
  | "values" => view .values
  | "copy" =>
    refuseAll label args named
    return .dict entries
  | "get" =>
    match ← between label name 1 2 args named with
    | key :: default =>
      key.checkKey
      return (Value.keyed? entries key).getD (default.head?.getD .none)
    | [] => return .none
  | name => v.noAttribute name

/-- The first of some records whose name equals a value. -/
def findNamed (name : Value) : List Value → Except RenderFault Value
  | [] => .ok .none
  | v :: vs => do
    match v.attribute? "name" with
    | some n => if ← n.equal name then return v else findNamed name vs
    | none => findNamed name vs

/-- Calls a method of a record that looks up another one by its name. -/
def callFinder (v : Value) (label field : String) (args : List Value) (named : NamedValues) :
    Except RenderFault Value := do
  let signature : Signature := ⟨label, [⟨"name", none⟩], 1, false⟩
  match ← signature.values args named with
  | [name] => findNamed name (← ((v.attribute? field).getD .none).items)
  | _ => return .none

/-- Calls a method of a loop. -/
def callLoopMethod (id : Nat) (name : String) (args : List Value) (named : NamedValues) :
    Evaluation Value := do
  match ← Loop.get? id with
  | none => return .none
  | some l =>
    match name with
    | "cycle" =>
      refuseNamed "LoopContext.cycle" named
      if args.isEmpty then Value.badType "no items for cycling given"
      return args[(l.taken - 1) % args.length]?.getD .none
    | _ =>
      refuseNamed "LoopContext.changed" named
      let same ← match l.seen with
        | some seen => Value.equalItems seen args
        | none => pure false
      if same then return .bool false
      Loop.put id { l with seen := some args }
      return .bool true

/-- Calls a method of a value. -/
def callMethod (taker : Taker) (v : Value) (name : String) (args : List Value)
    (named : NamedValues) : Evaluation Value := do
  match v with
  | .text s | .choice _ _ _ s => callTextMethod taker s name args named
  | .sequence shape items => callSequenceMethod (.sequence shape items) items name args named
  | .range a b c =>
    callSequenceMethod (.range a b c) (Value.rangeItems a b c) name args named
  | .mapping shape entries => callDictMethod (.mapping shape entries) entries name args named
  | .record kind fields derived =>
    callFinder (.record kind fields derived) (kind.name ++ "." ++ name)
      ((Entries.get? kind.finders name).getD "") args named
  | .loop id => callLoopMethod id name args named
  | v => v.noAttribute name

end DiagramForge.Template
