import MatchCover.Json.Number

/-!
# Tokens of JSON

Punctuation, the three words, numbers and strings. Numbers and strings are checked against their
grammar, not read.
-/

namespace MatchCover.Json

inductive Mark where
  | openBrace
  | closeBrace
  | openBracket
  | closeBracket
  | colon
  | comma
  deriving DecidableEq, Repr

def Mark.char : Mark → Char
  | openBrace => '{'
  | closeBrace => '}'
  | openBracket => '['
  | closeBracket => ']'
  | colon => ':'
  | comma => ','

def Mark.ofChar? (c : Char) : Option Mark :=
  if c = '{' then some .openBrace
  else if c = '}' then some .closeBrace
  else if c = '[' then some .openBracket
  else if c = ']' then some .closeBracket
  else if c = ':' then some .colon
  else if c = ',' then some .comma
  else none

inductive Token where
  | mark (m : Mark)
  | null
  | bool (value : Bool)
  | number (lexeme : List Char)
  | string (text : List Piece)
  deriving DecidableEq, Repr

namespace Token

def isSpace (c : Char) : Bool := c == ' ' || c == '\n' || c == '\t' || c == '\r'

def hexValue? (c : Char) : Option Nat :=
  if '0' ≤ c ∧ c ≤ '9' then some (c.toNat - '0'.toNat)
  else if 'a' ≤ c ∧ c ≤ 'f' then some (c.toNat - 'a'.toNat + 10)
  else if 'A' ≤ c ∧ c ≤ 'F' then some (c.toNat - 'A'.toNat + 10)
  else none

/-- The number of four hexadecimal digits. -/
def unit? (a b c d : Char) : Option Nat := do
  let a ← hexValue? a
  let b ← hexValue? b
  let c ← hexValue? c
  let d ← hexValue? d
  some (((a * 16 + b) * 16 + c) * 16 + d)

/-- Reads a string after its opening quote, up to the closing one. -/
def readString : List Char → Option (List Piece × List Char)
  | [] => none
  | '"' :: s => some ([], s)
  | '\\' :: 'u' :: a :: b :: c :: d :: s => do
    let code ← unit? a b c d
    let (pieces, rest) ← readString s
    some (.unit code :: pieces, rest)
  | '\\' :: letter :: s => do
    let c ← Piece.escaped? letter
    let (pieces, rest) ← readString s
    some (.char c :: pieces, rest)
  | c :: s =>
    if c.toNat < 0x20 ∨ c = '\\' then none
    else (readString s).map fun (pieces, rest) => (.char c :: pieces, rest)

def word? : List Char → Option (Token × List Char)
  | 'n' :: 'u' :: 'l' :: 'l' :: s => some (null, s)
  | 't' :: 'r' :: 'u' :: 'e' :: s => some (bool true, s)
  | 'f' :: 'a' :: 'l' :: 's' :: 'e' :: s => some (bool false, s)
  | _ => none

/-- Reads one token from the front of a text that starts with no space. A number is the longest
run of number characters, since no token can follow one directly. -/
def next? : List Char → Option (Token × List Char)
  | [] => none
  | c :: s =>
    match Mark.ofChar? c with
    | some m => some (mark m, s)
    | none =>
      if c = '"' then (readString s).map fun (text, rest) => (string text, rest)
      else if Numeral.isNumberChar c then
        let lexeme := (c :: s).takeWhile Numeral.isNumberChar
        if (Numeral.ofLexeme? lexeme).isSome then
          some (number lexeme, (c :: s).dropWhile Numeral.isNumberChar)
        else none
      else word? (c :: s)

section
variable {s rest : List Char} {t : Token}

theorem length_readString {pieces : List Piece} (h : readString s = some (pieces, rest)) :
    rest.length < s.length := by
  fun_induction readString s generalizing pieces with
  | case1 => cases h
  | case2 s =>
    cases h
    simp
  | case3 a b c d s ih =>
    simp only [Option.bind_eq_bind, Option.bind_eq_some_iff] at h
    obtain ⟨code, -, ⟨tail, rest'⟩, htail, h⟩ := h
    cases h
    have hlength : rest'.length < s.length := ih htail
    simp only [List.length_cons]
    omega
  | case4 letter s hu ih =>
    simp only [Option.bind_eq_bind, Option.bind_eq_some_iff] at h
    obtain ⟨c, -, ⟨tail, rest'⟩, htail, h⟩ := h
    cases h
    have hlength : rest'.length < s.length := ih htail
    simp only [List.length_cons]
    omega
  | case5 c s _ _ _ h' => cases h
  | case6 c s _ _ _ h' ih =>
    obtain ⟨⟨tail, rest'⟩, htail, h⟩ := Option.map_eq_some_iff.mp h
    cases h
    have hlength : rest.length < s.length := ih htail
    simp only [List.length_cons]
    omega

theorem length_word? (h : word? s = some (t, rest)) : rest.length < s.length := by
  unfold word? at h
  split at h <;> cases h <;> simp <;> omega

/-- Every token takes a character. -/
theorem length_next? (h : next? s = some (t, rest)) : rest.length < s.length := by
  cases s with
  | nil => cases h
  | cons c s =>
    rw [next?] at h
    split at h
    · cases h
      simp
    split at h
    · obtain ⟨⟨pieces, rest'⟩, hstring, h⟩ := Option.map_eq_some_iff.mp h
      cases h
      exact Nat.lt_succ_of_lt (length_readString hstring)
    split at h
    · next hc =>
      dsimp only at h
      split at h
      · cases h
        rw [List.dropWhile_cons_of_pos hc]
        exact Nat.lt_succ_of_le (List.dropWhile_suffix _).length_le
      · cases h
    · exact length_word? h

end

def scan : List Char → Option (List Token)
  | [] => some []
  | c :: s =>
    if isSpace c then scan s
    else match _h : next? (c :: s) with
      | none => none
      | some (token, rest) => (scan rest).map (token :: ·)
termination_by s => s.length
decreasing_by
  · exact Nat.lt_succ_self _
  · exact length_next? _h

end Token

end MatchCover.Json
