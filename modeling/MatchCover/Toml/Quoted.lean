/-!
# TOML strings

Strings in double quotes have escapes, those in single quotes none. Either kind can span several
lines between triple quotes; a line break right after the opening quotes does not count, and a
carriage return before a line feed is dropped.
-/

namespace MatchCover.Toml

def isSpace (c : Char) : Bool := c == ' ' || c == '\t'

/-- The characters that comments and strings can hold. -/
def isPlain (c : Char) : Bool := c == '\t' || 0x20 ≤ c.toNat && c.toNat != 0x7F

/-- The rest of a text after a line break, if it starts with one. -/
def newline? : List Char → Option (List Char)
  | '\n' :: s => some s
  | '\r' :: '\n' :: s => some s
  | _ => none

/-- The character that a letter stands for after a backslash. -/
def escaped? (letter : Char) : Option Char :=
  if letter = '"' ∨ letter = '\\' then some letter
  else if letter = 'b' then some '\x08'
  else if letter = 'f' then some '\x0c'
  else if letter = 'n' then some '\n'
  else if letter = 'r' then some '\r'
  else if letter = 't' then some '\t'
  else none

def hexValue? (c : Char) : Option Nat :=
  if '0' ≤ c ∧ c ≤ '9' then some (c.toNat - '0'.toNat)
  else if 'a' ≤ c ∧ c ≤ 'f' then some (c.toNat - 'a'.toNat + 10)
  else if 'A' ≤ c ∧ c ≤ 'F' then some (c.toNat - 'A'.toNat + 10)
  else none

/-- The character with a number in hexadecimal, unless it is a surrogate or too large. -/
def scalar? (digits : List Char) : Option Char := do
  let values ← digits.mapM hexValue?
  let n := values.foldl (fun n v => 16 * n + v) 0
  if n.isValidChar then some (Char.ofNat n) else none

/-- What a quoted text reads as: its characters and what follows it. -/
abbrev Quotation := Option (List Char × List Char)

def Quotation.cons (c : Char) (q : Quotation) : Quotation := q.map fun (text, rest) => (c :: text, rest)

/-- Reads a string in double quotes after its opening quote. -/
def basic : List Char → Quotation
  | [] => none
  | '"' :: s => some ([], s)
  | '\\' :: 'u' :: a :: b :: c :: d :: s => do
    let ch ← scalar? [a, b, c, d]
    (basic s).cons ch
  | '\\' :: 'U' :: a :: b :: c :: d :: e :: f :: g :: h :: s => do
    let ch ← scalar? [a, b, c, d, e, f, g, h]
    (basic s).cons ch
  | '\\' :: letter :: s => do
    let ch ← escaped? letter
    (basic s).cons ch
  | c :: s => if isPlain c ∧ c ≠ '\\' then (basic s).cons c else none

/-- Reads a string in single quotes after its opening quote. -/
def literal : List Char → Quotation
  | [] => none
  | '\'' :: s => some ([], s)
  | c :: s => if isPlain c then (literal s).cons c else none

/-- Up to two more quotes right after three closing ones still belong to the string. -/
def closing (quote : Char) (s : List Char) : List Char × List Char :=
  let count := min 2 (s.takeWhile (· == quote)).length
  (List.replicate count quote, s.drop count)

/-- Reads a string in triple double quotes after its opening ones. With the flag set, blanks and
line breaks are passed over, as after a backslash that ends a line. -/
def multiBasic : Bool → List Char → Quotation
  | _, [] => none
  | _, '"' :: '"' :: '"' :: s => some (closing '"' s)
  | _, '\\' :: 'u' :: a :: b :: c :: d :: s => do
    let ch ← scalar? [a, b, c, d]
    (multiBasic false s).cons ch
  | _, '\\' :: 'U' :: a :: b :: c :: d :: e :: f :: g :: h :: s => do
    let ch ← scalar? [a, b, c, d, e, f, g, h]
    (multiBasic false s).cons ch
  | _, '\\' :: letter :: s =>
    if (newline? ((letter :: s).dropWhile isSpace)).isSome then multiBasic true (letter :: s)
    else do
      let ch ← escaped? letter
      (multiBasic false s).cons ch
  | skipping, '\r' :: '\n' :: s =>
    if skipping then multiBasic true s else (multiBasic false s).cons '\n'
  | skipping, c :: s =>
    if skipping ∧ (isSpace c ∨ c = '\n') then multiBasic true s
    else if c = '\n' ∨ (isPlain c ∧ c ≠ '\\') then (multiBasic false s).cons c
    else none

def multiLiteral : List Char → Quotation
  | [] => none
  | '\'' :: '\'' :: '\'' :: s => some (closing '\'' s)
  | '\r' :: '\n' :: s => (multiLiteral s).cons '\n'
  | c :: s => if c = '\n' ∨ isPlain c then (multiLiteral s).cons c else none

def dropNewline (s : List Char) : List Char := (newline? s).getD s

def quotation : List Char → Quotation
  | '"' :: '"' :: '"' :: s => multiBasic false (dropNewline s)
  | '\'' :: '\'' :: '\'' :: s => multiLiteral (dropNewline s)
  | '"' :: s => basic s
  | '\'' :: s => literal s
  | _ => none

end MatchCover.Toml
