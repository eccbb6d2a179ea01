import DiagramForge.Cli.Markup
import DiagramForge.Data
import DiagramForge.Text.Width

/-!
# The console

What a command says, in the order it says it: results, which go to one stream, and complaints, which
go to another. Either is markup. A message whose markup is broken is not shown, nor is anything after
it, and the command fails with it; what was shown before stays.

The lines on the console are as long as the messages; `shownLines_of_plain` says that a line of
ordinary characters is shown as it is.
-/

namespace DiagramForge.Cli

/-! ## Lines -/

/-- Whether a character is not shown: those that ring, go back, or go to another line or page. -/
def isUnshown (c : Char) : Bool :=
  [7, 8, 11, 12, 13].contains c.toNat

/-- How many columns tabs are apart. -/
def tabWidth : Nat := 8

/-- The lines that show a text. -/
def shownLines (cs : List Char) : List String :=
  (Text.lines (cs.filter fun c ↦ !isUnshown c)).map fun line ↦
    String.ofList (Text.expandTabs tabWidth 0 line)

/-- A text without tabs, line ends and unshown characters is shown on one line, as it is. -/
theorem shownLines_of_plain {cs : List Char}
    (h : ∀ c ∈ cs, c ≠ '\n' ∧ c ≠ '\t' ∧ isUnshown c = false) :
    shownLines cs = [String.ofList cs] := by
  have hfilter : cs.filter (fun c ↦ !isUnshown c) = cs :=
    List.filter_eq_self.2 fun c hc ↦ by simp [(h c hc).2.2]
  rw [shownLines, hfilter, Text.lines_of_not_mem fun hmem ↦ (h _ hmem).1 rfl, List.map_singleton,
    Text.expandTabs_of_not_mem _ _ fun hmem ↦ (h _ hmem).2.1 rfl]

/-! ## Messages -/

/-- Something that a command says. -/
inductive Message where
  /-- Something about what was found or done. -/
  | result (markup : String)
  /-- Something about a failure. -/
  | complaint (markup : String)
deriving DecidableEq

/-- The outcome of a command. -/
structure Outcome where
  /-- The exit code. -/
  exitCode : Nat
  /-- The lines of the results. -/
  lines : List String := []
  /-- The report as data, if it is put out. -/
  report : Option Data := none
  /-- The lines of the complaints. -/
  complaints : List String := []
  /-- What has broken, if anything has. -/
  escaped : Option Failure := none

namespace Outcome

/-- The outcome of a command that something breaks in. -/
def broken (f : Failure) : Outcome :=
  { exitCode := 1, complaints := [f.className ++ ": " ++ f.reason], escaped := some f }

/-- What comes of a command that says something before it goes on. -/
def saying (next : Outcome) : List Message → Outcome
  | [] => next
  | message :: messages =>
    match message with
    | .result markup =>
      match plainText markup with
      | .ok text =>
        let outcome := next.saying messages
        { outcome with lines := shownLines text ++ outcome.lines }
      | .error c => broken (.crash c)
    | .complaint markup =>
      match plainText markup with
      | .ok text =>
        let outcome := next.saying messages
        { outcome with complaints := shownLines text ++ outcome.complaints }
      | .error c => broken (.crash c)

/-- Whether a reader of lines takes a character for the end of one. -/
def endsLine (c : Char) : Bool :=
  [0x0A, 0x1C, 0x1D, 0x1E, 0x85, 0x2028, 0x2029].contains c.toNat

/-- The lines of the results for a reader who breaks them wherever Unicode allows to. -/
def linesRead (o : Outcome) : List String :=
  o.lines.flatMap (Text.fieldStrings endsLine)

end Outcome

end DiagramForge.Cli
