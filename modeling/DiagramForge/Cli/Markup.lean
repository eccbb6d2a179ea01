import DiagramForge.Cli.Style
import DiagramForge.Text.Emoji

/-!
# Markup

The messages of commands are written with tags: `[red]` begins a style and `[/red]` or `[/]` ends
one. A backslash before a tag makes it part of the text, and two backslashes there stand for one. In
the text between tags, emoji can be given by name.

What is put out is read elsewhere as plain text, so styles leave no trace in it. They still decide
which tag an ending belongs to, and an ending that belongs to none breaks the message. A name in a
message, of a file for instance, is read as markup like the rest of it.
-/

namespace DiagramForge.Cli

/-! ## Tags in a text -/

/-- A piece of markup. -/
inductive MarkupPiece where
  /-- A piece of text. -/
  | plain (text : List Char)
  /-- A tag: where it begins, and what stands between its brackets. -/
  | tag (position : Nat) (text : List Char)
deriving DecidableEq

/-- Whether a character may follow the bracket that a tag begins with. -/
def beginsTag (c : Char) : Bool :=
  ('a' ≤ c && c ≤ 'z') || c == '#' || c == '/' || c == '@'

/-- What stands between the brackets of a tag and what follows it, after its first bracket. There is
no bracket within a tag. -/
def tagAt? : List Char → Option (List Char × List Char)
  | [] => none
  | c :: cs =>
    if beginsTag c then
      match cs.dropWhile fun c ↦ c != '[' && c != ']' with
      | ']' :: rest => some (c :: cs.takeWhile fun c ↦ c != '[' && c != ']', rest)
      | _ => none
    else none

theorem length_lt_of_tagAt? {cs text rest : List Char} (h : tagAt? cs = some (text, rest)) :
    rest.length < cs.length := by
  cases cs with
  | nil => cases h
  | cons c cs =>
    simp only [tagAt?] at h
    split at h
    · split at h
      · next rest' heq =>
        have hle := (List.dropWhile_suffix (l := cs) fun c ↦ c != '[' && c != ']').length_le
        rw [heq, List.length_cons] at hle
        cases h
        rw [List.length_cons]
        omega
      · cases h
    · cases h

/-- A piece of text if there is any. -/
def plainPiece (text : List Char) : List MarkupPiece :=
  if text.isEmpty then [] else [.plain text]

/-- The pieces of a markup from a position on; `text` is the text before it that belongs to no piece
yet, and `slashes` counts the backslashes after that text. -/
def piecesFrom (position : Nat) (text : List Char) (slashes : Nat) (cs : List Char) :
    List MarkupPiece :=
  let text' := text ++ List.replicate slashes '\\'
  match cs with
  | [] => plainPiece text'
  | c :: cs =>
    if c == '\\' then piecesFrom (position + 1) text (slashes + 1) cs
    else if c == '[' then
      match _h : tagAt? cs with
      | none => piecesFrom (position + 1) (text' ++ [c]) 0 cs
      | some (tag, rest) =>
        plainPiece text ++ plainPiece (List.replicate (slashes / 2) '\\')
          ++ (if slashes % 2 == 1 then .plain ('[' :: tag ++ [']']) else .tag position tag)
          :: piecesFrom (position + tag.length + 2) [] 0 rest
    else piecesFrom (position + 1) (text' ++ [c]) 0 cs
termination_by cs.length
decreasing_by
  · simp
  · simp
  · have := length_lt_of_tagAt? _h
    simp only [List.length_cons]
    omega
  · simp

/-- The pieces of a markup. -/
def markupPieces (cs : List Char) : List MarkupPiece :=
  piecesFrom 0 [] 0 cs

/-! ## Text without tags -/

/-- A bracket with a backslash before it loses the backslash. -/
def withoutEscapes : List Char → List Char
  | '\\' :: '[' :: cs => '[' :: withoutEscapes cs
  | c :: cs => c :: withoutEscapes cs
  | [] => []

/-- A message as far as it has been read. -/
structure Shown where
  /-- The text so far. -/
  text : List Char := []
  /-- The names of the styles that have begun and not ended, the last one first. -/
  styles : List String := []

/-- The crash for an ending that belongs to no tag. -/
def strayEnding (tag : List Char) (position : Nat) (problem : String) : Crash :=
  ⟨"MarkupError", "closing tag '[" ++ String.ofList tag ++ "]' at position "
    ++ toString position ++ " " ++ problem⟩

/-- Reads a tag. What follows an equals sign in it does not belong to the name of its style. -/
def Shown.readTag (s : Shown) (position : Nat) (tag : List Char) : Except Crash Shown := do
  match tag.takeWhile (· != '=') with
  | '/' :: name =>
    if Text.allBlank name then
      match s.styles with
      | [] => throw (strayEnding ['/'] position "has nothing to close")
      | _ :: styles => return { s with styles }
    else
      let name ← Style.nameOf (Text.trimString (String.ofList name))
      if s.styles.contains name then return { s with styles := s.styles.erase name }
      else throw (strayEnding tag position "doesn't match any open tag")
  | name => return { s with styles := (← Style.nameOf (String.ofList name)) :: s.styles }

/-- Reads a piece of markup. -/
def Shown.readPiece (s : Shown) : MarkupPiece → Except Crash Shown
  | .plain text => .ok { s with text := s.text ++ Text.withEmoji (withoutEscapes text) }
  | .tag position tag => s.readTag position tag

/-- The text that a markup stands for. -/
def plainText (markup : String) : Except Crash (List Char) :=
  return (← (markupPieces markup.toList).foldlM Shown.readPiece {}).text

end DiagramForge.Cli
