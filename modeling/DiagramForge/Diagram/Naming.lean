import DiagramForge.Diagram.Basic
import DiagramForge.Template.Helper

/-!
# Functions on names as helpers

What the generator itself does with names, to be called the way templates call helpers: with any
values, in any number.
-/

namespace DiagramForge

open Template

/-- A helper that works on a name; `refuse` is the fault for anything that is no text. -/
def nameHelper (label : String) (refuse : Value → Except RenderFault Value)
    (f : String → Value) : Helper :=
  unaryHelper label "name" fun v ↦
    match v.text? with
    | some s => return f s
    | none => refuse v

/-- The words of a name, in ascending order and each once. -/
def sortedTokens (name : String) : List String :=
  ((Naming.tokenStrings name).mergeSort (· ≤ ·)).eraseDups

/-- The helpers that work on names of projects, nodes and properties. -/
def nameHelpers : List (String × Helper) :=
  [("sanitizeProjectName",
      nameHelper "sanitize_project_name" notText fun s ↦ .text (Naming.toProjectName s)),
    ("nameTokens", nameHelper "name_tokens" notText fun s ↦ .texts (sortedTokens s)),
    ("defaultShape",
      nameHelper "default_shape" (·.noAttribute "lower") fun s ↦ .text (defaultShape s))]

end DiagramForge
