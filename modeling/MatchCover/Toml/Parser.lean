import MatchCover.Toml.Basic
import MatchCover.Toml.Quoted

/-!
# Reading TOML

`parse?` reads a text of TOML 1.0 as the entries of its root table. It reads the text line by line
and puts the lines together to tables afterwards.
-/

namespace MatchCover.Toml

/-- How many brackets or segments of a key may nest, less one. -/
def nestingLimit : Nat := 80

def dropSpaces (s : List Char) : List Char := s.dropWhile isSpace

def dropComment : List Char → List Char
  | '#' :: s => s.dropWhile isPlain
  | s => s

/-- The next line, if nothing but blanks and a comment is left of this one. -/
def lineEnd? (s : List Char) : Option (List Char) :=
  match dropComment (dropSpaces s) with
  | [] => some []
  | s => newline? s

/-- Passes over blanks, line breaks and comments; the flag tells whether a comment is open. -/
def dropFiller : Bool → List Char → List Char
  | _, [] => []
  | _, '\n' :: s => dropFiller false s
  | _, '\r' :: '\n' :: s => dropFiller false s
  | true, c :: s => if isPlain c then dropFiller true s else c :: s
  | false, c :: s =>
    if c = '#' then dropFiller true s
    else if isSpace c then dropFiller false s
    else c :: s

def isBareChar (c : Char) : Bool :=
  'a' ≤ c && c ≤ 'z' || 'A' ≤ c && c ≤ 'Z' || '0' ≤ c && c ≤ '9' || c == '-' || c == '_'

def segment? (s : List Char) : Option (String × List Char) :=
  match s with
  | '"' :: s => (basic s).map fun (text, rest) => (String.ofList text, rest)
  | '\'' :: s => (literal s).map fun (text, rest) => (String.ofList text, rest)
  | s =>
    let bare := s.takeWhile isBareChar
    if bare.isEmpty then none else some (String.ofList bare, s.dropWhile isBareChar)

/-- Reads the segments of a dotted key, with blanks around each. The first argument bounds their
number. -/
def segments? : Nat → List Char → Option (List String × List Char)
  | 0, _ => none
  | fuel + 1, s => do
    let (first, rest) ← segment? (dropSpaces s)
    match dropSpaces rest with
    | '.' :: rest =>
      let (more, rest) ← segments? fuel rest
      some (first :: more, rest)
    | rest => some ([first], rest)

/-- Reads a key, of less segments than the nesting limit. -/
def key? (s : List Char) : Option (List String × List Char) := segments? (nestingLimit - 1) s

def word? : List Char → Option (Bool × List Char)
  | 't' :: 'r' :: 'u' :: 'e' :: s => some (true, s)
  | 'f' :: 'a' :: 'l' :: 's' :: 'e' :: s => some (false, s)
  | _ => none

/-- Reads a number or a date; four digits and a hyphen begin a day, two and a colon a time. -/
def numberOrDate? (s : List Char) : Option (Toml × List Char) :=
  let digits := s.takeWhile isDecimalDigit
  match s.drop digits.length, digits.length with
  | '-' :: rest, 4 => (dated? (valueOf 10 digits) ('-' :: rest)).map fun (d, rest) => (date d, rest)
  | ':' :: _, 2 => (time? s).map fun (t, rest) => (date (.time t), rest)
  | _, _ => (numberEnd? s).map (number, ·)

mutual

/-- Reads a value inside `depth` brackets. The first argument bounds the depth of the calls; twice
the length of the text and two more is enough. -/
def value? : Nat → (depth : Nat) → List Char → Option (Toml × List Char)
  | 0, _, _ => none
  | fuel + 1, depth, s =>
    match s with
    | [] => none
    | '[' :: s =>
      if depth + 1 < nestingLimit then
        match dropFiller false s with
        | ']' :: rest => some (array [], rest)
        | s => (readItems? fuel (depth + 1) s).map fun (items, rest) => (array items, rest)
      else none
    | '{' :: s =>
      if depth + 1 < nestingLimit then
        match dropSpaces s with
        | '}' :: rest => some (table .inline [], rest)
        | s => do
          let (pairs, rest) ← readPairs? fuel (depth + 1) s
          let t ← ofPairs? pairs
          some (t, rest)
      else none
    | c :: _ =>
      if c = '"' ∨ c = '\'' then
        (quotation s).map fun (text, rest) => (string (String.ofList text), rest)
      else if c = 't' ∨ c = 'f' then (word? s).map fun (value, rest) => (bool value, rest)
      else numberOrDate? s

/-- Reads the items of an array up to its closing bracket; a comma may follow the last. -/
def readItems? : Nat → (depth : Nat) → List Char → Option (List Toml × List Char)
  | 0, _, _ => none
  | fuel + 1, depth, s => do
    let (item, rest) ← value? fuel depth s
    match dropFiller false rest with
    | ']' :: rest => some ([item], rest)
    | ',' :: rest =>
      match dropFiller false rest with
      | ']' :: rest => some ([item], rest)
      | rest =>
        let (items, rest) ← readItems? fuel depth rest
        some (item :: items, rest)
    | _ => none

/-- Reads the entries of a table in braces up to the closing one, all on one line. -/
def readPairs? : Nat → (depth : Nat) → List Char → Option (List (List String × Toml) × List Char)
  | 0, _, _ => none
  | fuel + 1, depth, s => do
    let (key, rest) ← key? s
    let rest ← char? '=' rest
    let (value, rest) ← value? fuel depth (dropSpaces rest)
    match dropSpaces rest with
    | '}' :: rest => some ([(key, value)], rest)
    | ',' :: rest =>
      let (pairs, rest) ← readPairs? fuel depth rest
      some ((key, value) :: pairs, rest)
    | _ => none

end

inductive Line where
  | pair (path : List String) (value : Toml)
  | header (header : Header)

/-- Reads a line that is not empty, up to where only a comment may follow. -/
def line? (s : List Char) : Option (Line × List Char) :=
  match s with
  | '[' :: '[' :: s => do
    let (path, rest) ← key? s
    let rest ← char? ']' rest
    let rest ← char? ']' rest
    some (.header (.item path), rest)
  | '[' :: s => do
    let (path, rest) ← key? s
    let rest ← char? ']' rest
    some (.header (.table path), rest)
  | s => do
    let (path, rest) ← key? s
    let rest ← char? '=' rest
    let rest := dropSpaces rest
    let (value, rest) ← value? (2 * rest.length + 2) 0 rest
    some (.pair path value, rest)

/-- Reads all lines. The first argument bounds their number; one more than the length of the text
is enough. -/
def lines? : Nat → List Char → Option (List Line)
  | 0, _ => none
  | fuel + 1, s =>
    match dropSpaces s with
    | [] => some []
    | s =>
      match lineEnd? s with
      | some rest => lines? fuel rest
      | none => do
        let (line, rest) ← line? s
        let rest ← lineEnd? rest
        let lines ← lines? fuel rest
        some (line :: lines)

/-- The entries that come before the first header. -/
def leadingPairs : List Line → List (List String × Toml)
  | .pair path value :: lines => (path, value) :: leadingPairs lines
  | _ => []

/-- Each header with the entries below it. -/
def sections : List Line → List (Header × List (List String × Toml))
  | [] => []
  | .header header :: lines => (header, leadingPairs lines) :: sections lines
  | .pair _ _ :: lines => sections lines

def ofLines? (lines : List Line) : Option Entries := do
  let root ← insertAll? (leadingPairs lines) []
  (sections lines).foldlM (fun root (header, pairs) => addSection? header pairs root) root

/-- The text without the byte order mark that it may start with. -/
def dropMark : List Char → List Char
  | c :: s => if c.toNat = 0xFEFF then s else c :: s
  | [] => []

def parse? (text : String) : Option Entries :=
  let s := dropMark text.toList
  (lines? (s.length + 1) s).bind ofLines?

end MatchCover.Toml
