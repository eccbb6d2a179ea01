import DiagramForge.Config.Check
import DiagramForge.Grammar.Basic

/-!
# Reading a grammar from data

A grammar can be given as data instead of text. Keys that name nothing are left out of account, and
every field but a name, a type and a definition has a default.
-/

namespace DiagramForge

namespace DataReader

variable {α : Type}

/-- Reads an entry that has a default. -/
def entry (entries : List (String × Data)) (steps : List DataStep) (name : String)
    (reader : DataReader α) (default : α) : Checked α :=
  match Entries.get? entries name with
  | some d => reader (steps ++ [.key name]) d
  | none => .ok default

/-- Reads an entry that has to be there. -/
def required (entries : List (String × Data)) (steps : List DataStep) (name : String)
    (reader : DataReader α) : Checked α :=
  match Entries.get? entries name with
  | some d => reader (steps ++ [.key name]) d
  | none => refuse (steps ++ [.key name]) .missing

/-- Reads a sequence. -/
def sequence (item : DataReader α) : DataReader (List α) :=
  items .notSequence item

end DataReader

open DataReader

/-- Reads a property. -/
def Property.read : DataReader Property :=
  group "Property" fun steps es ↦
    Property.mk
      <$> required es steps "name" solidText
      <*> required es steps "type" solidText
      <*> entry es steps "optional" truth false
      <*> entry es steps "array" truth false
      <*> entry es steps "cross_reference" truth false

/-- Reads an interface. -/
def Interface.read : DataReader Interface :=
  group "GrammarInterface" fun steps es ↦
    Interface.mk
      <$> required es steps "name" text
      <*> entry es steps "properties" (sequence Property.read) []
      <*> entry es steps "super_types" (sequence text) []
      <*> entry es steps "annotations" textEntries []

/-- Reads an alias. -/
def TypeAlias.read : DataReader TypeAlias :=
  group "TypeAlias" fun steps es ↦
    TypeAlias.mk
      <$> required es steps "name" text
      <*> required es steps "definition" text
      <*> entry es steps "union_types" (sequence text) []
      <*> entry es steps "annotations" textEntries []

/-- Reads a grammar. -/
def Grammar.read : DataReader Grammar :=
  group "GrammarModel" fun steps es ↦
    Grammar.mk
      <$> entry es steps "project_name" text ""
      <*> entry es steps "grammar_name" optionalText none
      <*> entry es steps "interfaces" (sequence Interface.read) []
      <*> entry es steps "types" (sequence TypeAlias.read) []
      <*> entry es steps "rules" (sequence text) []
      <*> entry es steps "source_path" optionalText none

/-- The grammar that data describe. -/
def Grammar.ofData (d : Data) : Except (List Issue) Grammar :=
  (Grammar.read [] d).toExcept

end DiagramForge
