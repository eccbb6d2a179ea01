import DiagramForge.Text.Position

/-!
# Block comments

Block comments are blanked before a grammar is scanned: every character of a comment becomes a
space, and line feeds stay. The blanked text has the length and the lines of the source, so an
offset means the same place in both.
-/

namespace DiagramForge.Grammar

/-- A character inside a comment: a line feed stays, anything else becomes a space. -/
def blanked (c : Char) : Char :=
  if c == '\n' then '\n' else ' '

/-- The text with its block comments blanked, or the offset of a comment that is not closed.
`opened` is the offset of the comment the text starts in, if it starts in one. -/
def blankCommentsFrom (opened : Option Nat) (offset : Nat) : List Char → Except Nat (List Char)
  | [] =>
    match opened with
    | none => .ok []
    | some start => .error start
  | [c] =>
    match opened with
    | none => .ok [c]
    | some start => .error start
  | c :: d :: cs =>
    match opened with
    | none =>
      if c == '/' && d == '*' then
        (blankCommentsFrom (some offset) (offset + 2) cs).map ([' ', ' '] ++ ·)
      else (blankCommentsFrom none (offset + 1) (d :: cs)).map (c :: ·)
    | some start =>
      if c == '*' && d == '/' then
        (blankCommentsFrom none (offset + 2) cs).map ([' ', ' '] ++ ·)
      else (blankCommentsFrom (some start) (offset + 1) (d :: cs)).map (blanked c :: ·)

/-- The text with its block comments blanked, or the offset of the comment that is not closed. -/
def blankComments (source : List Char) : Except Nat (List Char) :=
  blankCommentsFrom none 0 source

end DiagramForge.Grammar
