import DiagramForge.Text.Digit

/-!
# Data values

The values a configuration file can hold. An object is the list of its entries in the order they
were written; reading a key twice keeps its first place and its last value.
-/

namespace DiagramForge

/-- A value of a configuration file or of a plugin's metadata. -/
inductive Data where
  /-- The absent value. -/
  | null
  /-- A truth value. -/
  | bool (b : Bool)
  /-- An integer of any size. -/
  | int (n : Int)
  /-- A text. -/
  | text (s : String)
  /-- A list. -/
  | list (items : List Data)
  /-- An object: keys with their values. -/
  | object (entries : List (String × Data))
deriving Repr, Inhabited

namespace Data

/-! ## Equality -/

mutual

/-- Whether two values are equal. An object is equal only to one with its entries in the same
order. -/
def beq : Data → Data → Bool
  | null, null => true
  | bool b, bool c => b == c
  | int m, int n => m == n
  | text s, text t => s == t
  | list ds, list es => beqItems ds es
  | object es, object fs => beqEntries es fs
  | _, _ => false

/-- Whether two lists hold equal values. -/
def beqItems : List Data → List Data → Bool
  | [], [] => true
  | d :: ds, e :: es => beq d e && beqItems ds es
  | _, _ => false

/-- Whether two objects hold equal entries. -/
def beqEntries : List (String × Data) → List (String × Data) → Bool
  | [], [] => true
  | (k, d) :: es, (l, e) :: fs => k == l && beq d e && beqEntries es fs
  | _, _ => false

end

instance : BEq Data := ⟨beq⟩

mutual

theorem beq_iff (d e : Data) : beq d e = true ↔ d = e := by
  cases d <;> cases e <;>
    simp only [beq, beq_iff_eq, bool.injEq, int.injEq, text.injEq, list.injEq, object.injEq,
      reduceCtorEq, Bool.false_eq_true]
  · exact beqItems_iff _ _
  · exact beqEntries_iff _ _

theorem beqItems_iff (ds es : List Data) : beqItems ds es = true ↔ ds = es := by
  cases ds <;> cases es <;> simp only [beqItems, reduceCtorEq, Bool.false_eq_true]
  rw [Bool.and_eq_true, beq_iff, beqItems_iff, List.cons.injEq]

theorem beqEntries_iff (es fs : List (String × Data)) : beqEntries es fs = true ↔ es = fs := by
  cases es <;> cases fs <;> simp only [beqEntries, reduceCtorEq, Bool.false_eq_true]
  rw [Bool.and_eq_true, Bool.and_eq_true, beq_iff, beqEntries_iff, beq_iff_eq, List.cons.injEq,
    Prod.ext_iff]

end

instance : LawfulBEq Data where
  eq_of_beq h := (beq_iff _ _).mp h
  rfl := (beq_iff _ _).mpr rfl

end Data

/-! ## Entries in written order -/

namespace Entries

variable {α : Type}

/-- The value of a key. -/
def get? (entries : List (String × α)) (key : String) : Option α :=
  (entries.find? fun e ↦ e.1 == key).map (·.2)

/-- Whether a key is present. -/
def has (entries : List (String × α)) (key : String) : Bool :=
  entries.any fun e ↦ e.1 == key

/-- Sets a key: in its place if it is present, at the end if it is not. -/
def set : List (String × α) → String → α → List (String × α)
  | [], key, value => [(key, value)]
  | e :: es, key, value => if e.1 == key then (key, value) :: es else e :: set es key value

/-- Removes a key. -/
def erase (entries : List (String × α)) (key : String) : List (String × α) :=
  entries.filter fun e ↦ e.1 != key

/-- The entries of the second list set over those of the first. -/
def merge (first second : List (String × α)) : List (String × α) :=
  second.foldl (fun acc e ↦ set acc e.1 e.2) first

/-- The entries with a repeated key at its first place and with its last value. -/
def ofList (entries : List (String × α)) : List (String × α) :=
  merge [] entries

@[simp]
theorem get?_set_self (entries : List (String × α)) (key : String) (value : α) :
    get? (set entries key value) key = some value := by
  induction entries with
  | nil => simp [set, get?]
  | cons e es ih =>
    simp only [set]
    split
    · simp [get?]
    · next h => simpa [get?, h] using ih

theorem get?_set_of_ne (entries : List (String × α)) {key other : String} (value : α)
    (h : key ≠ other) : get? (set entries key value) other = get? entries other := by
  induction entries with
  | nil => simp [set, get?, h]
  | cons e es ih =>
    simp only [set]
    split
    · next he =>
      have : e.1 ≠ other := fun h' ↦ h ((eq_of_beq he).symm.trans h')
      simp [get?, h, this]
    · by_cases ho : e.1 = other
      · simp [get?, ho]
      · simpa [get?, ho] using ih

end Entries

namespace Data

/-! ## Reading documents -/

/-- The result of reading a document or a part of it. -/
abbrev Read := Except Text.ReadFault

/-- A part of a document that is there or is not written as it should be. -/
def Read.of {α : Type} : Option α → Read α
  | some a => .ok a
  | none => .error .malformed

/-- The integer that decimal digits denote. -/
def Read.decimal (negative : Bool) (digits : List Char) : Read Int :=
  Text.integerOfDigits negative (digits.map fun c ↦ c.toNat - 48)

/-! ## Tests on values -/

/-- Whether a value counts as true: zero, the absent value and empty things do not. -/
def isTrue : Data → Bool
  | null => false
  | bool b => b
  | int n => n != 0
  | text s => s != ""
  | list items => !items.isEmpty
  | object entries => !entries.isEmpty

/-- The name of the type of a value, as messages show it. -/
def typeName : Data → String
  | null => "NoneType"
  | bool _ => "bool"
  | int _ => "int"
  | text _ => "str"
  | list _ => "list"
  | object _ => "dict"

/-! ## How a value is shown in a text -/

mutual

/-- A value as it is shown inside a list or an object: a text is quoted there. -/
def showInner : Data → String
  | .null => "None"
  | .bool true => "True"
  | .bool false => "False"
  | .int n => ToString.toString n
  | .text s => Text.quoted s
  | .list items => "[" ++ Text.joinStrings ", " (showItems items) ++ "]"
  | .object entries => "\x7b" ++ Text.joinStrings ", " (showEntries entries) ++ "\x7d"

/-- The items of a list, each as it is shown inside. -/
def showItems : List Data → List String
  | [] => []
  | d :: ds => showInner d :: showItems ds

/-- The entries of an object, each key quoted. -/
def showEntries : List (String × Data) → List String
  | [] => []
  | (key, d) :: es => (Text.quoted key ++ ": " ++ showInner d) :: showEntries es

end

/-- A value as a text shows it: a text is shown as it is. -/
def display : Data → String
  | .text s => s
  | d => showInner d

end Data

end DiagramForge
