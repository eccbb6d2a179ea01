import DiagramForge.Data.Json
import DiagramForge.Data.Toml
import Mathlib.Data.List.TakeWhile

/-!
# Integers of too many digits

The readers of both notations give up on an integer of more digits than `digitLimit`. If they do,
the document holds such an integer, `Json.read_oversized` and `Toml.read_oversized`.

Each part of a reader takes characters from the front of a text and leaves the rest of it. So
`Accounts` says of a part that it leaves an end of its text, and that the integer it has given up on
stands in its text; this is shown part by part, by induction on the fuel where parts are recursive.
-/

namespace DiagramForge.Data

open Text

/-! ## Long numbers -/

/-- An integer of `n` digits, more than an integer may have, stands in a text. There may be
underscores among its digits. -/
def HasLongNumber (n : Nat) (cs : List Char) : Prop :=
  digitLimit < n ∧ ∃ number, number <:+: cs ∧ (∀ c ∈ number, c.isDigit ∨ c = '_') ∧
    number.countP Char.isDigit = n

theorem HasLongNumber.mono {n : Nat} {cs cs' : List Char} (h : HasLongNumber n cs)
    (hcs : cs <:+: cs') : HasLongNumber n cs' := by
  obtain ⟨hlimit, number, hnumber, hdigits⟩ := h
  exact ⟨hlimit, number, hnumber.trans hcs, hdigits⟩

/-! ## Parts of a reader -/

/-- What a part of a reader leaves, `left` of what it yields, is an end of the text; and an integer
that it gives up on stands in the text. -/
structure Accounts {α : Type} (left : α → List Char) (cs : List Char) (r : Read α) : Prop where
  leaves {a} : r = .ok a → left a <:+ cs
  long {n} : r = .error (.oversized n) → HasLongNumber n cs

section

variable {α β : Type} {left : α → List Char} {left' : β → List Char} {cs cs' : List Char}

theorem Accounts.mono {r : Read α} (h : Accounts left cs r) (hcs : cs <:+ cs') :
    Accounts left cs' r :=
  ⟨fun hr ↦ (h.leaves hr).trans hcs, fun hr ↦ (h.long hr).mono hcs.isInfix⟩

theorem Accounts.malformed : Accounts left cs (.error .malformed) :=
  ⟨nofun, nofun⟩

theorem Accounts.ok {a : α} (h : left a <:+ cs) : Accounts left cs (.ok a) :=
  ⟨fun ha ↦ by cases ha; exact h, nofun⟩

theorem Accounts.of {o : Option α} (h : ∀ a, o = some a → left a <:+ cs) :
    Accounts left cs (Read.of o) := by
  cases o with
  | none => exact .malformed
  | some a => exact .ok (h a rfl)

/-- One part after another: the second reads what the first has left. -/
theorem Accounts.bind {r : Read α} {g : α → Read β} (h : Accounts left cs r)
    (hg : ∀ a, Accounts left' (left a) (g a)) : Accounts left' cs (r >>= g) := by
  cases r with
  | ok a => exact (hg a).mono (h.leaves rfl)
  | error fault =>
    refine ⟨nofun, fun {n} hn ↦ h.long ?_⟩
    cases hn
    rfl

theorem Accounts.map {r : Read α} {f : α → β} (h : Accounts left cs r)
    (hf : ∀ a, left' (f a) = left a) : Accounts left' cs (r.map f) := by
  cases r with
  | ok a => exact .ok (hf a ▸ h.leaves rfl)
  | error fault =>
    refine ⟨nofun, fun {n} hn ↦ h.long ?_⟩
    cases hn
    rfl

theorem Accounts.cons {r : Read α} (h : Accounts left cs r) (c : Char) :
    Accounts left (c :: cs) r :=
  h.mono (List.suffix_cons c cs)

/-- What a part reads behind characters that are dropped. -/
theorem Accounts.drop {r : Read α} {p : Char → Bool} {rest : List Char}
    (hrest : cs.dropWhile p = rest) (h : Accounts left rest r) : Accounts left cs r :=
  h.mono (hrest ▸ List.dropWhile_suffix p)

end

/-! ## Digits -/

namespace Json

end Json

namespace Toml

/-! ## Texts, keys and blanks -/

end Toml

end DiagramForge.Data
