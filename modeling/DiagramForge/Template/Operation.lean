import DiagramForge.Template.Value

/-!
# Operations on values

The operators of expressions. An undefined operand is refused before anything else; after that the
types of the operands decide, and an operation they do not have is a fault that names them.
-/

namespace DiagramForge.Template

/-- The operations whose operands are both evaluated. -/
inductive BinaryOp where
  /-- The sum of numbers, or texts or lists one after the other. -/
  | add
  /-- The difference of numbers. -/
  | sub
  /-- The product of numbers, or a text or list a number of times. -/
  | mul
deriving DecidableEq, Inhabited

/-- The operations of one operand. -/
inductive UnaryOp where
  /-- The opposite of a truth value. -/
  | not
  /-- The negation of a number. -/
  | minus
  /-- A number itself. -/
  | plus
deriving DecidableEq, Inhabited

/-- The comparisons. -/
inductive Comparison where
  /-- The operands are equal. -/
  | eq
  /-- The operands differ. -/
  | ne
  /-- The first operand occurs in the second one. -/
  | mem
  /-- The first operand does not occur in the second one. -/
  | notMem
deriving DecidableEq, Inhabited

namespace Value

/-! ## Arithmetic -/

/-- The fault of an operation that two values do not have. -/
def unsupported {α : Type} (sign : String) (a b : Value) : Except RenderFault α :=
  badType ("unsupported operand type(s) for " ++ sign ++ ": '" ++ a.typeName ++ "' and '"
    ++ b.typeName ++ "'")

/-- The fault of a value that cannot be put after a text, list or tuple. -/
def notConcatenated {α : Type} (kind : String) (v : Value) : Except RenderFault α :=
  badType ("can only concatenate " ++ kind ++ " (not \"" ++ v.typeName ++ "\") to " ++ kind)

/-- An operation that only numbers have. -/
def arithmetic (sign : String) (f : Int → Int → Int) (a b : Value) : Except RenderFault Value :=
  match a, b with
  | undefined reason, _ | omitted reason, _ | _, undefined reason | _, omitted reason =>
    .error (.undefined reason)
  | a, b =>
    match a.number?, b.number? with
    | some m, some n => .ok (.int (f m n))
    | _, _ => a.unsupported sign b

/-- The sum of two values. -/
def add (a b : Value) : Except RenderFault Value :=
  match a, b with
  | undefined reason, _ | omitted reason, _ | _, undefined reason | _, omitted reason =>
    .error (.undefined reason)
  | list xs, list ys => .ok (list (xs ++ ys))
  | tuple xs, tuple ys => .ok (tuple (xs ++ ys))
  | list _, b => b.notConcatenated "list"
  | tuple _, b => b.notConcatenated "tuple"
  | a, b =>
    match a.text?, b.text? with
    | some s, some t => .ok (text (s ++ t))
    | some _, Option.none => b.notConcatenated "str"
    | Option.none, _ => arithmetic "+" (· + ·) a b

/-- The number of items a repetition may have. -/
def repetitionLimit : Int := 1000000000

/-- A text, list or tuple a number of times. -/
def repeated? (v : Value) (n : Int) : Option Value :=
  match v with
  | list xs => some (list (List.replicate n.toNat xs).flatten)
  | tuple xs => some (tuple (List.replicate n.toNat xs).flatten)
  | v => v.text?.map fun s ↦ text (String.join (List.replicate n.toNat s))

/-- The product of a value that can be repeated and another one. -/
def times? (v w : Value) : Option (Except RenderFault Value) :=
  match v.repeated? 0, w.number? with
  | some _, some n =>
    some <|
      if 9223372036854775807 < n.natAbs then
        .error (.crash ⟨"OverflowError", "cannot fit 'int' into an index-sized integer"⟩)
      else if repetitionLimit < n * (v.size.toOption.getD 0 : Nat) then
        .error (.crash ⟨"MemoryError", ""⟩)
      else .ok ((v.repeated? n).getD v)
  | some _, Option.none =>
    some (badType ("can't multiply sequence by non-int of type '" ++ w.typeName ++ "'"))
  | Option.none, _ => Option.none

/-- The product of two values; a text, list or tuple times a number repeats it. -/
def mul (a b : Value) : Except RenderFault Value :=
  match a, b with
  | undefined reason, _ | omitted reason, _ | _, undefined reason | _, omitted reason =>
    .error (.undefined reason)
  | a, b => ((a.times? b).orElse fun _ ↦ b.times? a).getD (arithmetic "*" (· * ·) a b)

/-- A number with a sign in front. -/
def signed (sign : String) (f : Int → Int) (v : Value) : Except RenderFault Value :=
  match v with
  | undefined reason | omitted reason => .error (.undefined reason)
  | v =>
    match v.number? with
    | some n => .ok (int (f n))
    | Option.none => badType ("bad operand type for unary " ++ sign ++ ": '" ++ v.typeName ++ "'")

end Value

/-- The value of an operation of two operands. -/
def BinaryOp.apply : BinaryOp → Value → Value → Except RenderFault Value
  | add => Value.add
  | sub => Value.arithmetic "-" (· - ·)
  | mul => Value.mul

/-- The value of an operation of one operand. -/
def UnaryOp.apply : UnaryOp → Value → Except RenderFault Value
  | not, v => do return .bool (!(← v.truth))
  | minus, v => v.signed "-" (- ·)
  | plus, v => v.signed "+" id

/-! ## Texts -/

/-- A text before each character of another and at its end, at most so many times. -/
def spaced (new : List Char) : (limit : Nat) → List Char → List Char
  | 0, cs => cs
  | _ + 1, [] => new
  | limit + 1, c :: cs => new ++ c :: spaced new limit cs

/-- The first occurrences of a text replaced by another, at most so many. -/
def replaceFirst (old new : List Char) : (limit : Nat) → List Char → List Char
  | 0, cs => cs
  | limit + 1, cs =>
    match Text.splitFirst? old cs with
    | some (before, rest) => before ++ new ++ replaceFirst old new limit rest
    | none => cs

/-- Occurrences of a text replaced by another; an empty text occurs before each character and at
the end. Without a limit all of them are replaced. -/
def replaceText (old new : String) (limit : Option Nat) (s : String) : String :=
  let cs := s.toList
  let limit := limit.getD (cs.length + 1)
  String.ofList <|
    if old.isEmpty then spaced new.toList limit cs
    else replaceFirst old.toList new.toList limit cs

/-- The limit that a number stands for: a negative one stands for none. -/
def limitOf (v : Value) : Except RenderFault (Option Nat) :=
  match v.number? with
  | some n => .ok (if n < 0 then none else some n.toNat)
  | none => Value.badType ("'" ++ v.typeName ++ "' object cannot be interpreted as an integer")

end DiagramForge.Template
