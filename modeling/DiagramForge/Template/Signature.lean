import DiagramForge.Template.Value

/-!
# Signatures

What a function can be called with: its parameters in order, some of them with a default. A call
gives values by their places and by name; `Signature.bind` finds the value of each parameter, or
says what is wrong with the call. Of several faults the one reported is the first of these: a name
that no parameter has or that has its value already, then too many values, then missing ones.
-/

namespace DiagramForge.Template

/-- A parameter of a function. -/
structure Parameter where
  /-- Its name. -/
  name : String
  /-- The value it has if a call gives none; without one, a call has to give it. -/
  default : Option Value := none

/-- What a function can be called with. -/
structure Signature where
  /-- The function as messages call it. -/
  label : String
  /-- The parameters in order. -/
  parameters : List Parameter
  /-- How many values the surroundings of a call add in front of those it gives. -/
  given : Nat := 0
  /-- Whether a call may give values under other names as well. -/
  isOpen : Bool := false

namespace Signature

/-- Some names, as an enumeration in quotes. -/
def enumerated (names : List String) : String :=
  let quoted := names.map fun n ↦ "'" ++ n ++ "'"
  match quoted with
  | [a, b] => a ++ " and " ++ b
  | quoted =>
    match quoted.reverse with
    | last :: first :: more =>
      Text.joinStrings ", " (first :: more).reverse ++ ", and " ++ last
    | _ => Text.joinStrings ", " quoted

/-- The number of parameters a call has to give, those of the surroundings among them. -/
def required (s : Signature) : Nat :=
  s.given + (s.parameters.filter fun p ↦ p.default.isNone).length

/-- The number of values that can be given by place, those of the surroundings among them. -/
def capacity (s : Signature) : Nat :=
  s.given + s.parameters.length

/-- The fault of a call, in the words of a message that begins with the function. -/
def refuse {α : Type} (s : Signature) (message : String) : Except RenderFault α :=
  Value.badType (s.label ++ "() " ++ message)

/-- The fault of too many values; `count` is how many there are. -/
def tooMany {α : Type} (s : Signature) (count : Nat) : Except RenderFault α :=
  let range :=
    if s.required = s.capacity then ToString.toString s.capacity
    else "from " ++ ToString.toString s.required ++ " to " ++ ToString.toString s.capacity
  let noun :=
    if s.required = s.capacity ∧ s.capacity = 1 then " positional argument" else " positional arguments"
  s.refuse ("takes " ++ range ++ noun ++ " but " ++ ToString.toString count
    ++ (if count = 1 then " was" else " were") ++ " given")

/-- The fault of parameters without a value. -/
def missing {α : Type} (s : Signature) (names : List String) : Except RenderFault α :=
  let noun := if names.length = 1 then " required positional argument: "
    else " required positional arguments: "
  s.refuse ("missing " ++ ToString.toString names.length ++ noun ++ enumerated names)

/-- The values that a call gives under names, checked one by one: first those of parameters, then
the others. -/
def checkNamed (s : Signature) (args : List Value) :
    NamedValues → Except RenderFault (NamedValues × NamedValues)
  | [] => .ok ([], [])
  | (name, v) :: named => do
    match s.parameters.findIdx? fun p ↦ p.name == name with
    | some index =>
      if index < args.length then
        s.refuse ("got multiple values for argument '" ++ name ++ "'")
      else
        let (mine, others) ← s.checkNamed args named
        return ((name, v) :: mine, others)
    | none =>
      if s.isOpen then
        let (mine, others) ← s.checkNamed args named
        return (mine, (name, v) :: others)
      else s.refuse ("got an unexpected keyword argument '" ++ name ++ "'")

/-- The value of each parameter in a call, and the values under other names. -/
def bind (s : Signature) (args : List Value) (named : NamedValues) :
    Except RenderFault (List Value × NamedValues) := do
  let (mine, others) ← s.checkNamed args named
  if s.parameters.length < args.length then s.tooMany (s.given + args.length)
  let found := s.parameters.zipIdx.map fun (p, i) ↦
    (p, (args[i]?.orElse fun _ ↦ Entries.get? mine p.name).orElse fun _ ↦ p.default)
  match found.filter fun (_, v) ↦ v.isNone with
  | [] => return (found.filterMap (·.2), others)
  | lacking => s.missing (lacking.map fun (p, _) ↦ p.name)

/-- The value of each parameter in a call that gives no others. -/
def values (s : Signature) (args : List Value) (named : NamedValues) :
    Except RenderFault (List Value) := do
  return (← s.bind args named).1

end Signature

/-! ## Functions without named parameters -/

/-- Refuses named values in a call of a function that takes values by place only. -/
def refuseNamed (label : String) (named : NamedValues) : Except RenderFault Unit :=
  if named.isEmpty then .ok () else Value.badType (label ++ "() takes no keyword arguments")

/-- Refuses all values in a call of a method that takes none. -/
def refuseAll (label : String) (args : List Value) (named : NamedValues) :
    Except RenderFault Unit := do
  refuseNamed label named
  if !args.isEmpty then
    Value.badType (label ++ "() takes no arguments (" ++ ToString.toString args.length
      ++ " given)")

/-- The value of a call that has to give exactly one. -/
def exactlyOne (label : String) (args : List Value) (named : NamedValues) :
    Except RenderFault Value := do
  refuseNamed label named
  match args with
  | [v] => return v
  | args =>
    Value.badType (label ++ "() takes exactly one argument (" ++ ToString.toString args.length
      ++ " given)")

/-- The values of a call, of which there are at least and at most some; messages call the function
by `name` then, without brackets. -/
def between (label name : String) (least most : Nat) (args : List Value) (named : NamedValues) :
    Except RenderFault (List Value) := do
  refuseNamed label named
  let count := args.length
  let number (n : Nat) :=
    ToString.toString n ++ (if n = 1 then " argument" else " arguments") ++ ", got "
      ++ ToString.toString count
  let bound (word : String) := if least = most then "" else word
  if count < least then
    Value.badType (name ++ " expected " ++ bound "at least " ++ number least)
  else if most < count then
    Value.badType (name ++ " expected " ++ bound "at most " ++ number most)
  else return args

end DiagramForge.Template
