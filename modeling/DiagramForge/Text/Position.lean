import DiagramForge.Text.Blank

/-!
# Positions in a text

A position is an offset: the number of characters before it. Lines and columns are counted from
one, and only the line feed ends a line.
-/

namespace DiagramForge.Text

/-- The line of a position: one more than the line feeds before it. -/
def lineAt (source : List Char) (offset : Nat) : Nat :=
  (source.take offset).count '\n' + 1

/-- The column of a position: one more than the characters since the last line feed. -/
def columnAt (source : List Char) (offset : Nat) : Nat :=
  ((source.take offset).reverse.takeWhile (· != '\n')).length + 1

/-- The lines of a text around a line: from `before` lines above it to `after` lines below it, as
far as the text has them. -/
def linesAround (before after : Nat) (source : List Char) (line : Nat) : List (List Char) :=
  let first := line - 1 - before
  ((lines source).drop first).take (line + after - first)

/-! ## Line ends -/

/-- The text with every line end written as a line feed. -/
def unifyNewlines : List Char → List Char
  | [] => []
  | '\r' :: '\n' :: cs => '\n' :: unifyNewlines cs
  | c :: cs => (if c == '\r' then '\n' else c) :: unifyNewlines cs

end DiagramForge.Text
