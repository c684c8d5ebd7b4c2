import MatchCover.Text.Blank
import MatchCover.Text.Columns

/-!
# Lines of a source

A source as an excerpt shows it: lines, each with its number of characters before it and its break,
and the columns that their characters take on the screen.
-/

namespace MatchCover

structure SourceLine where
  /-- How many characters of the source come before it. -/
  start : Nat
  /-- Its characters, with the break at its end. -/
  chars : List Char
  deriving Repr

namespace SourceLine

/-- The characters that end a line; a carriage return and a line feed after it end one together. -/
def isBreak (c : Char) : Bool :=
  c.toNat ∈ [0xA, 0xB, 0xC, 0xD, 0x85, 0x2028, 0x2029]

/-- The lines of a text, each with its break. A text that ends in a break has no empty last line. -/
def split : List Char → List (List Char)
  | [] => []
  | '\r' :: '\n' :: s => ['\r', '\n'] :: split s
  | c :: s =>
    if isBreak c then [c] :: split s
    else match split s with
      | [] => [[c]]
      | line :: lines => (c :: line) :: lines

/-- Lines with their starts, the first at `start`. -/
def place (start : Nat) : List (List Char) → List SourceLine
  | [] => []
  | chars :: lines => ⟨start, chars⟩ :: place (start + chars.length) lines

/-- The lines of a source; an empty one has one empty line. -/
def ofSource (source : List Char) : List SourceLine :=
  match split source with
  | [] => [⟨0, []⟩]
  | lines => place 0 lines

/-- The end of a line, after its break. -/
def stop (l : SourceLine) : Nat := l.start + l.chars.length

def visible (l : SourceLine) : List Char := Text.dropTrailingBlanks l.chars

/-- The width of a character that is the `k`th of its line: a tab reaches to the next multiple of
four characters and any other blank takes one column. -/
def charWidth (k : Nat) (c : Char) : Nat :=
  if c = '\t' then 4 - k % 4 else if Text.isBlank c then 1 else Text.columns c

/-- The text of the characters from the `k`th on. -/
def drawFrom (k : Nat) : List Char → List Char
  | [] => []
  | c :: s =>
    (if Text.isBlank c then List.replicate (charWidth k c) ' ' else [c]) ++ drawFrom (k + 1) s

def draw (l : SourceLine) : List Char := drawFrom 0 l.visible

/-- The widths of the first `count` columns; those after the shown text have width one. -/
def widths (l : SourceLine) (count : Nat) : List Nat :=
  let shown := l.visible
  (List.range count).map fun k => (shown[k]?).elim 1 (charWidth k)

end SourceLine

end MatchCover
