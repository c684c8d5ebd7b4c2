import MatchCover.Json.Token
import MatchCover.Read

/-!
# Reading JSON

`parse?` reads a text strictly: no comments, no comma after the last item, nothing after the value.
Keys may repeat; what that means is up to whoever reads the value.
-/

namespace MatchCover.Json

-- Each call is for fewer tokens, or for the value that comes first among items.
mutual

def readValue : (tokens : List Token) → Option (Read Json tokens)
  | .null :: rest => some ⟨null, rest, Nat.lt_succ_self _⟩
  | .bool value :: rest => some ⟨bool value, rest, Nat.lt_succ_self _⟩
  | .number lexeme :: rest => some ⟨number lexeme, rest, Nat.lt_succ_self _⟩
  | .string text :: rest => some ⟨string text, rest, Nat.lt_succ_self _⟩
  | .mark .openBracket :: .mark .closeBracket :: rest =>
    some ⟨array [], rest, Nat.lt_succ_of_lt (Nat.lt_succ_self _)⟩
  | .mark .openBracket :: tokens => do
    let ⟨items, rest, h⟩ ← readItems tokens
    some ⟨array items, rest, Nat.lt_succ_of_lt h⟩
  | .mark .openBrace :: .mark .closeBrace :: rest =>
    some ⟨object [], rest, Nat.lt_succ_of_lt (Nat.lt_succ_self _)⟩
  | .mark .openBrace :: tokens => do
    let ⟨members, rest, h⟩ ← readMembers tokens
    some ⟨object members, rest, Nat.lt_succ_of_lt h⟩
  | _ => none
termination_by tokens => 2 * tokens.length
decreasing_by
  all_goals
    simp only [List.length_cons]
    omega

/-- Reads the items of an array up to its closing bracket. -/
def readItems (tokens : List Token) : Option (Read (List Json) tokens) := do
  match ← readValue tokens with
  | ⟨item, .mark .comma :: rest, h⟩ =>
    let ⟨items, rest, h'⟩ ← readItems rest
    some ⟨item :: items, rest, Nat.lt_trans h' (Nat.lt_of_succ_lt h)⟩
  | ⟨item, .mark .closeBracket :: rest, h⟩ => some ⟨[item], rest, Nat.lt_of_succ_lt h⟩
  | _ => none
termination_by 2 * tokens.length + 1
decreasing_by
  · exact Nat.lt_succ_self _
  · rw [List.length_cons] at h
    omega

/-- Reads the members of an object up to its closing brace. -/
def readMembers : (tokens : List Token) → Option (Read (List (List Piece × Json)) tokens)
  | .string key :: .mark .colon :: tokens => do
    match ← readValue tokens with
    | ⟨value, .mark .comma :: rest, h⟩ =>
      let ⟨members, rest, h'⟩ ← readMembers rest
      some ⟨(key, value) :: members, rest,
        Nat.lt_succ_of_lt (Nat.lt_succ_of_lt (Nat.lt_trans h' (Nat.lt_of_succ_lt h)))⟩
    | ⟨value, .mark .closeBrace :: rest, h⟩ =>
      some ⟨[(key, value)], rest, Nat.lt_succ_of_lt (Nat.lt_succ_of_lt (Nat.lt_of_succ_lt h))⟩
    | _ => none
  | _ => none
termination_by tokens => 2 * tokens.length
decreasing_by
  · simp only [List.length_cons]
    omega
  · simp only [List.length_cons] at h ⊢
    omega

end

def ofTokens? (tokens : List Token) : Option Json := do
  let j ← readValue tokens
  if j.rest.isEmpty then some j.value else none

def parse? (text : String) : Option Json := (Token.scan text.toList).bind ofTokens?

end MatchCover.Json
