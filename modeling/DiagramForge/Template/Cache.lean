import DiagramForge.Diagnostic

/-!
# A cache that forgets

A cache keeps values that are costly to make. An entry is forgotten when what it was made from has
changed since, when it is older than a limit, or when more recently used entries take its place.

All times come from outside, one argument for each reading of the clock, so nothing is assumed
about how the clock moves. Beside the table of entries there is a table of accesses: when each key
was last touched, that is, stored or handed out. Both tables are in the order their keys were first
stored, and of two entries touched at the same time the one before gives way.
-/

namespace DiagramForge.Template

/-- A value in a cache. -/
structure CacheEntry (ν : Type) where
  /-- The value. -/
  value : ν
  /-- The time of what the value was made from. -/
  sourceTime : Int
  /-- When the value was stored. -/
  storedAt : Int

/-- A cache with its limits and its statistics. -/
structure Cache (κ ν : Type) where
  /-- The entries in the order their keys were first stored. -/
  entries : List (κ × CacheEntry ν) := []
  /-- When each key was last touched. -/
  accesses : List (κ × Int) := []
  /-- The greatest number of entries, if it is limited. -/
  capacity : Option Int := none
  /-- The greatest age of an entry, if it is limited. -/
  lifetime : Option Int := none
  /-- How many lookups found a value. -/
  hits : Nat := 0
  /-- How many lookups found none. -/
  misses : Nat := 0

namespace Cache

variable {κ ν α : Type} [DecidableEq κ]

/-! ## Tables -/

/-- What a table has for a key. -/
def valueAt? (table : List (κ × α)) (key : κ) : Option α :=
  (table.find? fun e ↦ e.1 = key).map (·.2)

/-- Puts a value in the place of the one with its key, or at the end. -/
def place (key : κ) (a : α) : List (κ × α) → List (κ × α)
  | [] => [(key, a)]
  | e :: es => if e.1 = key then (key, a) :: es else e :: place key a es

/-- Removes the value of a key. -/
def remove (key : κ) (table : List (κ × α)) : List (κ × α) :=
  table.filter fun e ↦ e.1 ≠ key

/-- The entry of a key. -/
def find? (c : Cache κ ν) (key : κ) : Option (CacheEntry ν) :=
  valueAt? c.entries key

/-- Whether a key has an entry. -/
def has (c : Cache κ ν) (key : κ) : Bool :=
  (c.find? key).isSome

/-- The number of entries. -/
def size (c : Cache κ ν) : Nat :=
  c.entries.length

/-! ## Lookups -/

/-- Whether an entry has to be forgotten: it is too old, or its source has changed. `modified` is
the time of the source now, if it is known. -/
def isStale (c : Cache κ ν) (e : CacheEntry ν) (now : Int) (modified : Option Int) : Bool :=
  c.lifetime.any (fun limit ↦ limit < now - e.storedAt) || modified.any (e.sourceTime < ·)

/-- Removes the entry of a key. -/
def erase (c : Cache κ ν) (key : κ) : Cache κ ν :=
  { c with entries := remove key c.entries, accesses := remove key c.accesses }

/-- Records that the entry of a key is handed out. -/
def touch (c : Cache κ ν) (key : κ) (now : Int) : Cache κ ν :=
  { c with accesses := place key now c.accesses }

/-- Looks up a key. The clock reads `checked` when the age of the entry is checked and `touched`
when its value is handed out. -/
def get (c : Cache κ ν) (key : κ) (checked : Int) (modified : Option Int) (touched : Int) :
    Option ν × Cache κ ν :=
  match c.find? key with
  | none => (none, { c with misses := c.misses + 1 })
  | some e =>
    if c.isStale e checked modified then (none, { c.erase key with misses := c.misses + 1 })
    else (some e.value, { c.touch key touched with hits := c.hits + 1 })

/-! ## Storing -/

/-- When a key was last touched. A key of which this is not known counts as untouched since the
clock began. -/
def touchedAt (accesses : List (κ × Int)) (key : κ) : Int :=
  (valueAt? accesses key).getD 0

/-- The key of the entry that was touched the longest time ago. -/
def oldest? (accesses : List (κ × Int)) : List (κ × CacheEntry ν) → Option κ
  | [] => none
  | e :: es =>
    some (es.foldl (fun old e ↦
      if touchedAt accesses e.1 < touchedAt accesses old.1 then e else old) e).1

/-- Removes entries, the ones touched the longest time ago first, until a number is left. -/
def shrink (capacity : Nat) (es : List (κ × CacheEntry ν)) (accesses : List (κ × Int)) :
    (excess : Nat) → List (κ × CacheEntry ν) × List (κ × Int)
  | 0 => (es, accesses)
  | excess + 1 =>
    if es.length ≤ capacity then (es, accesses)
    else
      match oldest? accesses es with
      | none => (es, accesses)
      | some key => shrink capacity (remove key es) (remove key accesses) excess

/-- The entry of a value that is stored. `source` is the time of what it was made from; if it is not
known, the value counts as made from what there is now. -/
def entryOf (value : ν) (now : Int) (source : Option Int) : CacheEntry ν :=
  ⟨value, source.getD now, now⟩

/-- Stores a value. -/
def set (c : Cache κ ν) (key : κ) (value : ν) (now : Int) (source : Option Int) : Cache κ ν :=
  let entries := place key (entryOf value now source) c.entries
  let accesses := place key now c.accesses
  let (entries, accesses) := match c.capacity with
    | none => (entries, accesses)
    | some capacity => shrink capacity.toNat entries accesses entries.length
  { c with entries, accesses }

/-- The crash of a cache that runs out of entries to remove. -/
def noEntry : Crash :=
  Crash.badValue "min() arg is an empty sequence"

/-- Stores a value in a cache whose limit may be below zero. Such a cache runs out of entries to
remove, and stays as it is. -/
def store (c : Cache κ ν) (key : κ) (value : ν) (now : Int) (source : Option Int) :
    Except Crash (Cache κ ν) :=
  if c.capacity.any (· < 0) then .error noEntry
  else .ok (c.set key value now source)

/-- Forgets all entries. -/
def clear (c : Cache κ ν) : Cache κ ν :=
  { c with entries := [], accesses := [] }

end Cache

end DiagramForge.Template
