import MatchCover.Excerpt.SourceLine
import MatchCover.Snapshot.Span

/-!
# Excerpts

A message with the lines of the source that it is about, the span marked and labelled, and helps and
notes below. A span within one line is underlined; one of several lines has an arrow at its first
and last line. The span counts characters.
-/

namespace MatchCover

structure Excerpt where
  /-- The line above the excerpt. -/
  head : String
  filename : String
  span : Span
  label : String
  helps : List String := []
  notes : List String := []

namespace Excerpt

/-- The number of the last line that starts at or before an offset. -/
def lineOf (lines : List SourceLine) (offset : Nat) : Nat :=
  (lines.takeWhile (·.start ≤ offset)).length - 1

/-- Where on the lines of a source an excerpt is. -/
structure Frame where
  span : Span
  /-- The number of the first line of the span and that line, likewise the last. -/
  firstNumber : Nat
  first : SourceLine
  lastNumber : Nat
  last : SourceLine

/-- The place of a span in a source, `none` if it lies outside. -/
def frame? (source : List Char) (span : Span) : Option Frame := do
  let count := source.length
  if count < span.start ∨ (span.start < span.stop ∧ count < span.stop - 1) then none
  else
    let lines := SourceLine.ofSource source
    let firstNumber := lineOf lines span.start
    let lastNumber := lineOf lines (max (span.stop - 1) span.start)
    let first ← lines[firstNumber]?
    let last ← lines[lastNumber]?
    some { span, firstNumber, first, lastNumber, last }

namespace Frame

def numberWidth (f : Frame) : Nat := (Nat.toDigits 10 (f.lastNumber + 1)).length

/-- The space that the line numbers take. -/
def margin (f : Frame) : List Char := List.replicate (f.numberWidth + 2) ' '

/-- The start of a row without a line number. -/
def blank (f : Frame) : List Char := f.margin ++ ['│', ' ']

/-- The start of a row with a line number. -/
def numbered (f : Frame) (number : Nat) : List Char :=
  let digits := Nat.toDigits 10 (number + 1)
  ' ' :: (List.replicate (f.numberWidth - digits.length) ' ' ++ digits ++ [' ', '│', ' '])

def isSingle (f : Frame) : Bool := f.firstNumber == f.lastNumber

/-- A character drawn over a width: it stands first and another fills up the rest. -/
def stroke (head tail : Char) : Nat → List Char
  | 0 => []
  | width + 1 => head :: List.replicate width tail

/-- The rows for a span within one line: the line, the underline and the label. -/
def singleRows (f : Frame) (label : List Char) : List (List Char) :=
  let start := f.first.start
  if f.first.stop < f.span.stop then [f.blank]
  else
    let middle := (f.span.start + f.span.stop) / 2 - start
    let widths := f.first.widths (f.span.stop - start + 2)
    let inSpan (k : Nat) : Bool := f.span.start ≤ start + k && start + k < f.span.stop
    let underline (width k : Nat) : List Char :=
      if k = middle then (if inSpan k then stroke '┬' '─' width else stroke '│' ' ' width)
      else if inSpan k then stroke '─' '─' width else stroke ' ' ' ' width
    let pointer (width k : Nat) : List Char :=
      if k = middle then stroke '╰' '─' width
      else if middle < k then stroke '─' '─' width else stroke ' ' ' ' width
    [f.numbered f.firstNumber ++ f.first.draw,
      f.blank ++ (widths.zipIdx.flatMap fun (width, k) => underline width k),
      f.blank ++ (widths.zipIdx.flatMap fun (width, k) => pointer width k) ++ ' ' :: label]

/-- The row that stands for lines left out. -/
def gapRow (f : Frame) : List Char := f.margin ++ ['┆', ' ', '┆', ' ', ' ', ' ']

/-- The rows for a span of several lines: its first and last line and the label. -/
def multiRows (f : Frame) (label : List Char) : List (List Char) :=
  let adjacent := f.lastNumber - f.firstNumber = 1
  let opening := f.numbered f.firstNumber ++ ['╭', '─', '▶', ' '] ++ f.first.draw
  let gap := if adjacent then [] else [f.gapRow]
  if f.last.stop ≤ f.span.stop - 1 then
    [opening] ++ gap ++ if adjacent then [f.gapRow] else []
  else
    let width := (f.last.widths (f.last.chars.length + 2)).foldl (· + ·) 0
    [opening] ++ gap ++
      [f.numbered f.lastNumber ++ ['├', '─', '▶', ' '] ++ f.last.draw,
        f.blank ++ ['│', ' ', ' ', ' '] ++ List.replicate width ' ',
        f.blank ++ ['╰', '─', '─', '─'] ++ List.replicate width '─' ++ ' ' :: label]

/-- What stands between the margin and a help or note. -/
def sideBar (f : Frame) (firstLineLength : Nat) : List Char :=
  if f.isSingle then []
  else if f.span.start = firstLineLength then ['│', ' ', ' ', ' ']
  else List.replicate 4 ' '

end Frame

def itemLines : List Char → List (List Char)
  | [] => []
  | ['\n'] => [[]]
  | ['\r', '\n'] => [[]]
  | '\n' :: s => [] :: itemLines s
  | '\r' :: '\n' :: s => [] :: itemLines s
  | c :: s =>
    match itemLines s with
    | [] => [[c]]
    | line :: lines => (c :: line) :: lines

/-- The rows of one help or note: an empty row, then its lines behind the word. -/
def itemRows (start : List Char) (word : List Char) (item : String) : List (List Char) :=
  let indent := List.replicate (word.length + 2) ' '
  let lines := itemLines item.toList
  [start] ++ lines.zipIdx.map fun (line, i) =>
    start ++ (if i = 0 then word ++ [':', ' '] else indent) ++ line

/-- The rows of the helps or the notes, which are numbered if there are several. -/
def itemsRows (start : List Char) (word : String) (items : List String) : List (List Char) :=
  items.zipIdx.flatMap fun (item, i) =>
    let number := if items.length = 1 then [] else ' ' :: Nat.toDigits 10 (i + 1)
    itemRows start (word.toList ++ number) item

def rows (x : Excerpt) (source : List Char) (f : Frame) : List (List Char) :=
  let column := x.span.start - f.first.start + 1
  let place := x.filename.toList ++ ':' :: Nat.toDigits 10 (f.firstNumber + 1) ++
    ':' :: Nat.toDigits 10 column
  let firstLineLength := ((SourceLine.ofSource source).head?.elim 0 (·.chars.length))
  let start := f.blank ++ f.sideBar firstLineLength
  [f.margin ++ ['╭', '─', '[', ' '] ++ place ++ [' ', ']'], f.margin ++ ['│']] ++
    (if f.isSingle then f.singleRows x.label.toList else f.multiRows x.label.toList) ++
    itemsRows start "Help" x.helps ++ itemsRows start "Note" x.notes ++
    [List.replicate (f.numberWidth + 2) '─' ++ ['╯']]

/-- The text of an excerpt; only its head where the span lies outside the source. -/
def draw (x : Excerpt) (source : String) : String :=
  let below := (frame? source.toList x.span).elim [] (x.rows source.toList)
  String.ofList ((x.head.toList :: below).flatMap (· ++ ['\n']))

end Excerpt

end MatchCover
