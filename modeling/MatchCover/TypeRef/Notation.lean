import MatchCover.Read
import MatchCover.TypeRef.Basic
import MatchCover.TypeRef.Token

/-!
# Reading the type notation

`parse` reads `Name`, `Name<A, B>` and a trailing `?`. A text that is no type still names
something: `ofText` keeps it whole as the name, so that it equals no type that can be read.
-/

namespace MatchCover.TypeRef

inductive Fault where
  /-- A type has to start where none does. -/
  | missingName
  /-- An argument is followed by neither a comma nor the closing bracket. -/
  | unclosedArguments
  /-- Something follows the type. -/
  | trailingInput
  deriving DecidableEq, Repr

def Fault.message : Fault → String
  | missingName => "expected a type name"
  | unclosedArguments => "expected `,` or `>`"
  | trailingInput => "unexpected trailing input"

/-- A text that is no type, with the reason. -/
structure ParseError where
  text : String
  fault : Fault
  deriving DecidableEq, Repr

def ParseError.message (e : ParseError) : String :=
  "invalid type `" ++ e.text ++ "`: " ++ e.fault.message

/-- Completes a type by the question mark that may follow it. -/
def readNullable (name : List Char) (args : List TypeRef) :
    List Token → TypeRef × List Token
  | .mark .question :: rest => (⟨String.ofList name, args, true⟩, rest)
  | rest => (⟨String.ofList name, args, false⟩, rest)

theorem length_readNullable_le (name : List Char) (args : List TypeRef) (rest : List Token) :
    (readNullable name args rest).2.length ≤ rest.length := by
  unfold readNullable
  split <;> simp

-- Each call is for fewer tokens, or for the type that comes first among arguments.
mutual

def readType : (tokens : List Token) → Except Fault (Read TypeRef tokens)
  | .name name :: .mark .opening :: tokens => do
    let ⟨args, rest, h⟩ ← readArgs tokens
    return ⟨(readNullable name args rest).1, (readNullable name args rest).2, by
      have hle := length_readNullable_le name args rest
      simp only [List.length_cons]
      omega⟩
  | .name name :: tokens =>
    return ⟨(readNullable name [] tokens).1, (readNullable name [] tokens).2,
      Nat.lt_succ_of_le (length_readNullable_le name [] tokens)⟩
  | _ => throw .missingName
termination_by tokens => 2 * tokens.length
decreasing_by
  simp only [List.length_cons]
  omega

/-- Reads the arguments of a type up to its closing bracket. -/
def readArgs (tokens : List Token) : Except Fault (Read (List TypeRef) tokens) := do
  match ← readType tokens with
  | ⟨arg, .mark .comma :: rest, h⟩ =>
    let ⟨more, rest, h'⟩ ← readArgs rest
    return ⟨arg :: more, rest, Nat.lt_trans h' (Nat.lt_of_succ_lt h)⟩
  | ⟨arg, .mark .closing :: rest, h⟩ => return ⟨[arg], rest, Nat.lt_of_succ_lt h⟩
  | _ => throw .unclosedArguments
termination_by 2 * tokens.length + 1
decreasing_by
  · exact Nat.lt_succ_self _
  · rw [List.length_cons] at h
    omega

end

def ofTokens (tokens : List Token) : Except Fault TypeRef := do
  let t ← readType tokens
  if t.rest.isEmpty then return t.value else throw .trailingInput

def parse (text : String) : Except ParseError TypeRef :=
  (ofTokens (Token.scan text.toList)).mapError (ParseError.mk text)

/-- The type that a text stands for in a document: what it spells, or a type of just that name. -/
def ofText (text : String) : TypeRef :=
  match parse text with
  | .ok t => t
  | .error _ => named text

end MatchCover.TypeRef
