import DiagramForge.Data
import DiagramForge.Diagnostic

/-!
# Template values

What an expression in a template can denote: data, records of the diagram model, and things that
can be called. A name or attribute that does not exist denotes an undefined value, and it is the
use of that value that fails, not the mention.

Sequences and dictionaries come in several shapes. All shapes have the same items and entries; the
shape is what messages call a value by and what a text shows it as. A stream and a loop change
while a template is rendered: their values are only the places where `Template.Stream` keeps them.

## Keys

Any value that cannot change can be a key of a dictionary. Two keys are the same if they are equal
as values, so that a truth value and the number it counts as are one key, which keeps the place and
the spelling it had first.
-/

namespace DiagramForge.Template

/-- The shapes of a sequence. -/
inductive SequenceShape where
  /-- A list. -/
  | list
  /-- A tuple, which never changes. -/
  | tuple
deriving DecidableEq, Inhabited

/-- The shapes of a dictionary. -/
inductive DictShape where
  /-- A dictionary that can change. -/
  | plain
  /-- A dictionary that can only be read. -/
  | fixed
deriving DecidableEq, Inhabited

/-- The ways to look at a dictionary. -/
inductive DictPart where
  /-- Its keys. -/
  | keys
  /-- Its values. -/
  | values
  /-- Its entries, as pairs. -/
  | items
deriving DecidableEq, Inhabited

/-- What records have in common. -/
structure RecordClass where
  /-- Where the class is defined. -/
  home : String
  /-- The name of the class. -/
  name : String
  /-- Whether a record is a list of named fields: it can be gone through, and a text shows the
  fields without the name of the class. -/
  bare : Bool := false
  /-- The methods that look up a record by its name, each with the field it looks in. -/
  finders : List (String × String) := []
deriving DecidableEq, Inhabited

/-- The value of an expression in a template. -/
inductive Value where
  /-- The absent value. -/
  | none
  /-- A truth value. -/
  | bool (b : Bool)
  /-- An integer. -/
  | int (n : Int)
  /-- A text. -/
  | text (s : String)
  /-- A text that is one of a fixed choice, whose alternatives are the names of a class. -/
  | choice (home kind name value : String)
  /-- A sequence. -/
  | sequence (shape : SequenceShape) (items : List Value)
  /-- The integers from one to before another, by steps. -/
  | range (start stop step : Int)
  /-- A dictionary in the order of its entries. -/
  | mapping (shape : DictShape) (entries : List (Value × Value))
  /-- A dictionary looked at in one way. -/
  | view (part : DictPart) (entries : List (Value × Value))
  /-- A record: the fields it is made of, and attributes that follow from them. -/
  | record (kind : RecordClass) (fields derived : List (String × Value))
  /-- A helper function. -/
  | helper (name : String)
  /-- The function that renders a fragment. -/
  | fragment
  /-- A class that can be called, with the name of the class. -/
  | builtin (name : String)
  /-- A method of a value. -/
  | method (receiver : Value) (name : String)
  /-- A stream of items, by its place. -/
  | stream (id : Nat)
  /-- What a loop tells about itself, by its place. -/
  | loop (id : Nat)
  /-- The lack of a value, with the reason that its use is refused with. -/
  | undefined (reason : String)
  /-- The lack of a value that may be lacking: it counts as empty, and only a use that needs more
  is refused. -/
  | omitted (reason : String)
deriving Inhabited

/-- Why rendering stops. -/
inductive RenderFault where
  /-- An undefined value is used. -/
  | undefined (reason : String)
  /-- An operation or a helper breaks. -/
  | crash (c : Crash)
  /-- A fragment cannot be compiled. -/
  | diagnostic (d : Diagnostic)

/-- The arguments of a call that have a name, in the order of the call. -/
abbrev NamedValues := List (String × Value)

namespace Value

/-- A list. -/
@[match_pattern]
abbrev list (items : List Value) : Value := sequence .list items

/-- A tuple. -/
@[match_pattern]
abbrev tuple (items : List Value) : Value := sequence .tuple items

/-- A dictionary. -/
@[match_pattern]
abbrev dict (entries : List (Value × Value)) : Value := mapping .plain entries

/-- A dictionary whose keys are texts. -/
def object (shape : DictShape) (entries : List (String × Value)) : Value :=
  mapping shape (entries.map fun e ↦ (text e.1, e.2))

/-! ## Data as values -/

mutual

/-- The value of data. -/
def ofData : Data → Value
  | .null => none
  | .bool b => bool b
  | .int n => int n
  | .text s => text s
  | .list items => list (ofItems items)
  | .object entries => dict (ofEntries entries)

/-- The values of the items of a list. -/
def ofItems : List Data → List Value
  | [] => []
  | d :: ds => ofData d :: ofItems ds

/-- The entries of an object, with their keys as texts. -/
def ofEntries : List (String × Data) → List (Value × Value)
  | [] => []
  | (key, d) :: es => (text key, ofData d) :: ofEntries es

end

/-- A list of texts. -/
def texts (ss : List String) : Value :=
  list (ss.map text)

/-- A tuple of texts. -/
def textTuple (ss : List String) : Value :=
  tuple (ss.map text)

/-- A text that may be absent. -/
def optionalText : Option String → Value
  | some s => text s
  | Option.none => none

/-! ## The type of a value, as messages name it -/

/-- The name of a way to look at a dictionary. -/
def partName : DictPart → String
  | .keys => "dict_keys"
  | .values => "dict_values"
  | .items => "dict_items"

/-- The name of the type of a value. -/
def typeName : Value → String
  | none => "NoneType"
  | bool _ => "bool"
  | int _ => "int"
  | text _ => "str"
  | choice _ kind _ _ => kind
  | list _ => "list"
  | tuple _ => "tuple"
  | range .. => "range"
  | mapping .plain _ => "dict"
  | mapping .fixed _ => "mappingproxy"
  | view part _ => partName part
  | record kind _ _ => kind.name
  | helper _ | fragment => "function"
  | builtin _ => "type"
  | method (record ..) _ => "method"
  | method _ _ => "builtin_function_or_method"
  | stream _ => "generator"
  | loop _ => "LoopContext"
  | undefined _ => "StrictUndefined"
  | omitted _ => "Undefined"

/-- A value as the message about a part it lacks names it: by its type, and where that is defined
unless it is built in. -/
def subject : Value → String
  | none => "None"
  | choice home kind _ _ => home ++ "." ++ kind ++ " object"
  | record kind _ _ => kind.home ++ "." ++ kind.name ++ " object"
  | loop id => "jinja2.runtime." ++ (loop id).typeName ++ " object"
  | v => v.typeName ++ " object"

/-- The value for an attribute that a value does not have. -/
def lacks (v : Value) (field : String) : Value :=
  undefined (Text.quoted v.subject ++ " has no attribute " ++ Text.quoted field)

/-- The value for a name that is not bound. -/
def unbound (name : String) : Value :=
  undefined (Text.quoted name ++ " is undefined")

/-! ## Showing values -/

/-- The items of a sequence between its brackets. -/
def bracketed (shape : SequenceShape) (items : List String) : String :=
  match shape, items with
  | .list, items => "[" ++ Text.joinStrings ", " items ++ "]"
  | .tuple, [item] => "(" ++ item ++ ",)"
  | .tuple, items => "(" ++ Text.joinStrings ", " items ++ ")"

/-- The entries of a dictionary between braces. -/
def braced (entries : List String) : String :=
  "\x7b" ++ Text.joinStrings ", " entries ++ "\x7d"

mutual

/-- A value as it is shown inside a list or a dictionary. -/
def showInner : Value → String
  | none => "None"
  | bool true => "True"
  | bool false => "False"
  | int n => ToString.toString n
  | text s => Text.quoted s
  | choice _ kind name s => "<" ++ kind ++ "." ++ name ++ ": " ++ Text.quoted s ++ ">"
  | sequence shape items => bracketed shape (showItems items)
  | range start stop step =>
    "range(" ++ ToString.toString start ++ ", " ++ ToString.toString stop
      ++ (if step = 1 then "" else ", " ++ ToString.toString step) ++ ")"
  | mapping .plain entries => braced (showEntries entries)
  | mapping .fixed entries => "mappingproxy(" ++ braced (showEntries entries) ++ ")"
  | view .keys entries => "dict_keys([" ++ Text.joinStrings ", " (showKeys entries) ++ "])"
  | view .values entries => "dict_values([" ++ Text.joinStrings ", " (showValues entries) ++ "])"
  | view .items entries => "dict_items([" ++ Text.joinStrings ", " (showPairs entries) ++ "])"
  | record kind fields _ =>
    kind.name ++ "(" ++ Text.joinStrings ", " (showFields fields) ++ ")"
  | helper name => "<function " ++ name ++ ">"
  | fragment => "<function partial>"
  | builtin name => "<class " ++ Text.quoted name ++ ">"
  | method _ name => "<built-in method " ++ name ++ ">"
  | stream _ => "<generator object>"
  | loop _ => "<LoopContext>"
  | undefined _ | omitted _ => "Undefined"

/-- The items of a sequence, each as it is shown inside. -/
def showItems : List Value → List String
  | [] => []
  | v :: vs => showInner v :: showItems vs

/-- The entries of a dictionary. -/
def showEntries : List (Value × Value) → List String
  | [] => []
  | (key, v) :: es => (showInner key ++ ": " ++ showInner v) :: showEntries es

/-- The keys of a dictionary. -/
def showKeys : List (Value × Value) → List String
  | [] => []
  | (key, _) :: es => showInner key :: showKeys es

/-- The values of a dictionary. -/
def showValues : List (Value × Value) → List String
  | [] => []
  | (_, v) :: es => showInner v :: showValues es

/-- The entries of a dictionary, as pairs. -/
def showPairs : List (Value × Value) → List String
  | [] => []
  | (key, v) :: es => ("(" ++ showInner key ++ ", " ++ showInner v ++ ")") :: showPairs es

/-- The fields of a record, each with its name. -/
def showFields : List (String × Value) → List String
  | [] => []
  | (name, v) :: es => (name ++ "=" ++ showInner v) :: showFields es

end

mutual

/-- The integers that are shown with a value. -/
def integers : Value → List Int
  | int n => [n]
  | sequence _ items => integersAmong items
  | range start stop step => [start, stop, step]
  | mapping _ entries | view .items entries => integersOfEntries entries
  | view .keys entries => integersOfKeys entries
  | view .values entries => integersOfValues entries
  | record _ fields _ => integersOfFields fields
  | _ => []

/-- The integers that are shown with the items of a sequence. -/
def integersAmong : List Value → List Int
  | [] => []
  | v :: vs => integers v ++ integersAmong vs

/-- The integers that are shown with the entries of a dictionary. -/
def integersOfEntries : List (Value × Value) → List Int
  | [] => []
  | (key, v) :: es => integers key ++ (integers v ++ integersOfEntries es)

/-- The integers that are shown with the keys of a dictionary. -/
def integersOfKeys : List (Value × Value) → List Int
  | [] => []
  | (key, _) :: es => integers key ++ integersOfKeys es

/-- The integers that are shown with the values of a dictionary. -/
def integersOfValues : List (Value × Value) → List Int
  | [] => []
  | (_, v) :: es => integers v ++ integersOfValues es

/-- The integers that are shown with the fields of a record. -/
def integersOfFields : List (String × Value) → List Int
  | [] => []
  | (_, v) :: es => integers v ++ integersOfFields es

end

/-- Whether an integer has more digits than are ever shown. -/
def isOversized (n : Int) : Bool :=
  Text.digitLimit < (Nat.toDigits 10 n.natAbs).length

/-- The text that shows a value, unless an integer in it has too many digits. -/
def withinDigits (v : Value) (s : String) : Except RenderFault String :=
  if v.integers.any isOversized then .error (.crash Crash.unshowable) else .ok s

/-- A value as a text shows it: a text stands for itself. An undefined value is not shown. -/
def display : Value → Except RenderFault String
  | text s => .ok s
  | choice _ kind name _ => .ok (kind ++ "." ++ name)
  | mapping shape entries => withinDigits (mapping shape entries) (braced (showEntries entries))
  | record kind fields derived =>
    withinDigits (record kind fields derived)
      (if kind.bare then Text.joinStrings " " (showFields fields)
        else (record kind fields derived).showInner)
  | undefined reason => .error (.undefined reason)
  | omitted _ => .ok ""
  | v => withinDigits v v.showInner

/-! ## Faults -/

/-- An operation that values of their types do not have. -/
def badType {α : Type} (message : String) : Except RenderFault α :=
  .error (.crash (Crash.badType message))

/-- An operation that these very values do not have. -/
def badValue {α : Type} (message : String) : Except RenderFault α :=
  .error (.crash (Crash.badValue message))

/-- A value without an attribute that something needs. -/
def noAttribute {α : Type} (v : Value) (name : String) : Except RenderFault α :=
  .error (.crash ⟨"AttributeError",
    "'" ++ v.typeName ++ "' object has no attribute '" ++ name ++ "'"⟩)

/-- A value that cannot be gone through. -/
def notIterable {α : Type} (v : Value) : Except RenderFault α :=
  badType ("'" ++ v.typeName ++ "' object is not iterable")

/-- A value that has no length. -/
def noSize {α : Type} (v : Value) : Except RenderFault α :=
  badType ("object of type '" ++ v.typeName ++ "' has no len()")

/-! ## Tests on values -/

/-- The number of integers in a range. -/
def rangeSize (start stop step : Int) : Nat :=
  if 0 < step then ((stop - start + step - 1) / step).toNat
  else if step < 0 then ((start - stop - step - 1) / (-step)).toNat
  else 0

/-- Whether a value counts as true: zero, the absent value and empty things do not. -/
def truth : Value → Except RenderFault Bool
  | none => .ok false
  | bool b => .ok b
  | int n => .ok (n != 0)
  | text s | choice _ _ _ s => .ok (s != "")
  | sequence _ items => .ok (!items.isEmpty)
  | range start stop step => .ok (rangeSize start stop step != 0)
  | mapping _ entries | view _ entries => .ok (!entries.isEmpty)
  | undefined reason => .error (.undefined reason)
  | omitted _ => .ok false
  | _ => .ok true

/-- The number a truth value or integer counts as. -/
def number? : Value → Option Int
  | bool b => some (if b then 1 else 0)
  | int n => some n
  | _ => Option.none

/-- The text a text or choice stands for. -/
def text? : Value → Option String
  | text s | choice _ _ _ s => some s
  | _ => Option.none

/-- What two functions, streams or the like have in common only if they are the same. -/
def identity? : Value → Option (String × Nat)
  | helper name => some ("helper " ++ name, 0)
  | fragment => some ("partial", 0)
  | builtin name => some ("class " ++ name, 0)
  | stream id => some ("stream", id)
  | loop id => some ("loop", id)
  | _ => Option.none

mutual

/-- Whether two values are equal. A truth value equals the number it counts as. -/
def equal : Value → Value → Except RenderFault Bool
  | undefined reason, _ => .error (.undefined reason)
  | _, undefined reason => .error (.undefined reason)
  | none, none | omitted _, omitted _ => .ok true
  | sequence shape xs, sequence shape' ys =>
    if shape = shape' then equalItems xs ys else .ok false
  | range a b c, range a' b' c' =>
    let n := rangeSize a b c
    .ok (n == rangeSize a' b' c' && (n == 0 || a == a' && (n == 1 || c == c')))
  | mapping _ xs, mapping _ ys =>
    if xs.length == ys.length then equalEntries xs ys else .ok false
  | view .keys xs, view .keys ys =>
    if xs.length == ys.length then keysAmong xs ys else .ok false
  | view .items xs, view .items ys =>
    if xs.length == ys.length then equalEntries xs ys else .ok false
  | record kind xs _, record kind' ys _ =>
    if kind = kind' then equalFields xs ys else .ok false
  | x, y =>
    match x.text?, y.text? with
    | some s, some t => .ok (s == t)
    | _, _ =>
      match x.number?, y.number? with
      | some m, some n => .ok (m == n)
      | _, _ => .ok (x.identity?.isSome && x.identity? == y.identity?)

/-- Whether two lists have equal items. -/
def equalItems : List Value → List Value → Except RenderFault Bool
  | [], [] => .ok true
  | x :: xs, y :: ys => do if ← equal x y then equalItems xs ys else return false
  | _, _ => .ok false

/-- Whether the second dictionary has an equal entry for each entry of the first. -/
def equalEntries : List (Value × Value) → List (Value × Value) → Except RenderFault Bool
  | [], _ => .ok true
  | (key, x) :: xs, ys =>
    match ys.find? fun e ↦ (equal key e.1).toOption == some true with
    | some e => do if ← equal x e.2 then equalEntries xs ys else return false
    | Option.none => .ok false

/-- Whether the second dictionary has all keys of the first. -/
def keysAmong : List (Value × Value) → List (Value × Value) → Except RenderFault Bool
  | [], _ => .ok true
  | (key, _) :: xs, ys =>
    if ys.any fun e ↦ (equal key e.1).toOption == some true then keysAmong xs ys else .ok false

/-- Whether two records have equal fields. -/
def equalFields : List (String × Value) → List (String × Value) → Except RenderFault Bool
  | [], _ => .ok true
  | (_, x) :: xs, ys =>
    match ys with
    | [] => .ok true
    | (_, y) :: ys => do if ← equal x y then equalFields xs ys else return false

end

/-! ## Keys -/

mutual

/-- Why a value cannot be a key: it can change, or a part of it can. -/
def keyFault? : Value → Option RenderFault
  | list xs => changing (list xs)
  | tuple xs => keyFaultAmong xs
  | mapping shape es => changing (mapping shape es)
  | view .values _ => Option.none
  | view part es => changing (view part es)
  | record _ fields _ => fieldFaultAmong fields
  | undefined reason => some (.undefined reason)
  | _ => Option.none
where
  /-- The fault of a value that can change. -/
  changing (v : Value) : Option RenderFault :=
    some (.crash (Crash.badType ("unhashable type: '" ++ v.typeName ++ "'")))

/-- Why one of several values cannot be a key. -/
def keyFaultAmong : List Value → Option RenderFault
  | [] => Option.none
  | v :: vs => (keyFault? v).orElse fun _ ↦ keyFaultAmong vs

/-- Why the value of one of several fields cannot be a key. -/
def fieldFaultAmong : List (String × Value) → Option RenderFault
  | [] => Option.none
  | (_, v) :: es => (keyFault? v).orElse fun _ ↦ fieldFaultAmong es

end

/-- Refuses a value that cannot be a key. -/
def checkKey (v : Value) : Except RenderFault Unit :=
  match v.keyFault? with
  | some fault => .error fault
  | Option.none => .ok ()

/-- Whether two keys are the same. -/
def sameKey (a b : Value) : Bool :=
  (equal a b).toOption == some true

/-- The value of a key among entries. -/
def keyed? (entries : List (Value × Value)) (key : Value) : Option Value :=
  (entries.find? fun e ↦ e.1.sameKey key).map (·.2)

/-- Sets a key: in its place if it is present, at the end if it is not. -/
def setEntry : List (Value × Value) → Value → Value → List (Value × Value)
  | [], key, v => [(key, v)]
  | e :: es, key, v => if e.1.sameKey key then (e.1, v) :: es else e :: setEntry es key v

/-- The dictionary of entries, of which the last one of a key counts. -/
def dictOf (entries : List (Value × Value)) : Except RenderFault Value := do
  entries.forM fun e ↦ e.1.checkKey
  return dict (entries.foldl (fun es e ↦ setEntry es e.1 e.2) [])

/-! ## Items -/

/-- The pairs of keys and values of a dictionary. -/
def pairs (entries : List (Value × Value)) : List Value :=
  entries.map fun e ↦ tuple [e.1, e.2]

/-- The characters of a text, as texts. -/
def characters (s : String) : List Value :=
  s.toList.map fun c ↦ text (String.singleton c)

/-- The items of a view of a dictionary. -/
def viewItems (part : DictPart) (entries : List (Value × Value)) : List Value :=
  match part with
  | .keys => entries.map (·.1)
  | .values => entries.map (·.2)
  | .items => pairs entries

/-- The integers of a range. -/
def rangeItems (start stop step : Int) : List Value :=
  (List.range (rangeSize start stop step)).map fun (i : Nat) ↦ int (start + i * step)

/-- The items of a value that does not change while it is gone through. -/
def items : Value → Except RenderFault (List Value)
  | sequence _ items => .ok items
  | range start stop step => .ok (rangeItems start stop step)
  | mapping _ entries => .ok (entries.map (·.1))
  | view part entries => .ok (viewItems part entries)
  | text s | choice _ _ _ s => .ok (characters s)
  | record kind fields derived =>
    if kind.bare then .ok (fields.map fun e ↦ tuple [text e.1, e.2])
    else (record kind fields derived).notIterable
  | undefined reason => .error (.undefined reason)
  | omitted _ => .ok []
  | v => v.notIterable

/-- The number of items of a value that does not change. -/
def size : Value → Except RenderFault Nat
  | sequence _ items => .ok items.length
  | range start stop step => .ok (rangeSize start stop step)
  | mapping _ entries | view _ entries => .ok entries.length
  | text s | choice _ _ _ s => .ok s.length
  | undefined reason => .error (.undefined reason)
  | omitted _ => .ok 0
  | v => v.noSize

/-- Whether one of several values equals a value. -/
def memberOf (v : Value) : List Value → Except RenderFault Bool
  | [] => .ok false
  | x :: xs => do if ← equal x v then return true else memberOf v xs

/-- Whether a key is one of a dictionary. -/
def keyOf (v : Value) (entries : List (Value × Value)) : Except RenderFault Bool := do
  v.checkKey
  return (keyed? entries v).isSome

/-- Whether a value occurs in another one that does not change: as an item, a key, or a part of a
text. -/
def occursIn (v container : Value) : Except RenderFault Bool :=
  match container with
  | sequence _ items => v.memberOf items
  | mapping _ entries | view .keys entries => v.keyOf entries
  | view .values entries => v.memberOf (entries.map (·.2))
  | view .items entries =>
    match v with
    | tuple [key, w] => do
      key.checkKey
      match keyed? entries key with
      | some w' => equal w' w
      | Option.none => return false
    | _ => .ok false
  | text s | choice _ _ _ s =>
    match v.text? with
    | some t => .ok (Text.stringOccursIn t s)
    | Option.none =>
      badType ("'in <string>' requires string as left operand, not " ++ v.typeName)
  | range start stop step => v.memberOf (rangeItems start stop step)
  | undefined reason => .error (.undefined reason)
  | omitted _ => .ok false
  | record kind fields _ =>
    if kind.bare then v.memberOf (fields.map fun e ↦ tuple [text e.1, e.2])
    else badType ("argument of type '" ++ kind.name ++ "' is not iterable")
  | c => badType ("argument of type '" ++ c.typeName ++ "' is not iterable")

/-! ## Parts of values -/

/-- The item of a list at an index; a negative index counts from the end. -/
def itemAt? (items : List Value) (index : Int) : Option Value :=
  let index := if index < 0 then index + items.length else index
  if index < 0 then Option.none else items[index.toNat]?

/-- The value for an element that a value does not have. -/
def noElement (v key : Value) : Value :=
  match key with
  | text name => v.lacks name
  | choice .. =>
    undefined (Text.quoted v.subject ++ " has no attribute " ++ key.showInner)
  | key => undefined (v.subject ++ " has no element " ++ key.showInner)

/-- The items of a value that are found by their places. -/
def places? : Value → Option (List Value)
  | sequence _ items => some items
  | text s | choice _ _ _ s => some (characters s)
  | range start stop step => some (rangeItems start stop step)
  | _ => Option.none

/-- The item or entry of a value under a key, if it has one. -/
def part? (v key : Value) : Except RenderFault (Option Value) :=
  match v, key with
  | undefined reason, _ | omitted reason, _ | mapping _ _, undefined reason =>
    .error (.undefined reason)
  | mapping _ entries, key =>
    .ok (if key.keyFault?.isSome then Option.none else keyed? entries key)
  | v, key =>
    match v.places?, key.number? with
    | some items, some index => .ok (itemAt? items index)
    | _, _ => .ok Option.none

mutual

/-- The data of a value; what is not data is left out of account. -/
def toData : Value → Data
  | bool b => .bool b
  | int n => .int n
  | text s => .text s
  | choice _ _ _ s => .text s
  | sequence _ items => .list (toItems items)
  | mapping _ entries => .object (toEntries entries)
  | record _ fields derived => .object (toFields fields ++ toFields derived)
  | _ => .null

/-- The data of the items of a list. -/
def toItems : List Value → List Data
  | [] => []
  | v :: vs => toData v :: toItems vs

/-- The data of the entries of a dictionary; a key that is no text is shown. -/
def toEntries : List (Value × Value) → List (String × Data)
  | [] => []
  | (key, v) :: es => (key.text?.getD key.showInner, toData v) :: toEntries es

/-- The data of the fields of a record. -/
def toFields : List (String × Value) → List (String × Data)
  | [] => []
  | (name, v) :: es => (name, toData v) :: toFields es

end

end Value

end DiagramForge.Template
