import MatchCover.Json.Parser
import MatchCover.Json.Record
import MatchCover.Snapshot.Document
import MatchCover.TypeRef.Notation

/-!
# Reading snapshots

The document that a JSON text describes. Declarations, matches, arms and spans are records; types
and patterns have forms of their own. Values that belong to no known field are passed over, except
that types and patterns have to be readable throughout. Arrays and objects may nest `depthLimit`
deep, counted from the document.
-/

namespace MatchCover

open Json

/-- How deep arrays and objects may nest. -/
def depthLimit : Nat := 127

namespace TypeRef

structure Fields where
  name : Option String := none
  args : Option (List TypeRef) := none
  nullable : Option Bool := none

mutual

/-- Reads a type, spelled as a text in the type notation or as an object. -/
def ofValue? : Json → Option TypeRef
  | .string text => (Piece.string? text).map ofText
  | .object members => do
    let fields ← fields? members
    let name ← fields.name
    some ⟨name, fields.args.getD [], fields.nullable.getD false⟩
  | _ => none
termination_by structural j => j

def ofValues? : List Json → Option (List TypeRef)
  | [] => some []
  | j :: items => do
    let t ← ofValue? j
    let ts ← ofValues? items
    some (t :: ts)
termination_by structural items => items

def args? : Json → Option (List TypeRef)
  | .array items => ofValues? items
  | _ => none
termination_by structural j => j

/-- Collects the fields of a type, none of which may be given twice. -/
def fields? : List (List Piece × Json) → Option Fields
  | [] => some {}
  | (key, value) :: members => do
    let fields ← fields? members
    let key ← Piece.string? key
    if key = "name" then
      let name ← value.string?
      if fields.name.isSome then none else some { fields with name := some name }
    else if key = "args" then
      let args ← args? value
      if fields.args.isSome then none else some { fields with args := some args }
    else if key = "nullable" then
      let nullable ← value.bool?
      if fields.nullable.isSome then none else some { fields with nullable := some nullable }
    else some fields
termination_by structural members => members

end

/-- Reads a type that nests at most `room` arrays and objects. -/
def ofJson? (room : Nat) (j : Json) : Option TypeRef := if j.sound room then ofValue? j else none

def ofJsonText? (text : String) : Option TypeRef := (parse? text).bind (ofJson? depthLimit)

end TypeRef

/-- The numbers that an integer literal can hold. -/
def Literal.isInt (n : Int) : Bool := -(Nat.pow 2 63 : Int) ≤ n && n < (Nat.pow 2 63 : Int)

/-- Reads a literal; an integer out of range is kept as a floating-point number. -/
def Literal.ofJson? : Json → Option Literal
  | .null => some .null
  | .bool value => some (.bool value)
  | .string text => (Piece.string? text).map .string
  | .number lexeme => do
    let n ← Numeral.ofLexeme? lexeme
    match n.int?.filter isInt with
    | some value => some (.int value)
    | none => n.float?.map .float
  | _ => none

namespace Pattern

def fieldNames? (kind : String) : Option (List String) :=
  if kind = "discard" then some []
  else if kind = "literal" then some ["value", "ty"]
  else if kind = "type_test" then some ["ty", "binding"]
  else none

/-- Reads a pattern from its kind and the values of the fields that belong to it. -/
def ofFields? (kind : String) (fields : List (Option Json)) : Option Pattern :=
  match fields with
  | [] => some .discard
  | [first, second] =>
    if kind = "literal" then do
      let value ← required? Literal.ofJson? first
      let type ← optional? TypeRef.ofValue? second
      some (.literal value type)
    else do
      let type ← optional? TypeRef.ofValue? first
      let binding ← optional? string? second
      some (.typeTest type binding)
  | _ => none

/-- Reads a pattern: an object with its kind, or an array that begins with it. -/
def ofValue? : Json → Option Pattern
  | .object members => do
    let fields ← keyed? members
    let kind ← field? fields "kind"
    let kind ← required? string? kind
    let names ← fieldNames? kind
    let values ← objectFields? names members
    ofFields? kind values
  | .array (kind :: items) => do
    let kind ← kind.string?
    let names ← fieldNames? kind
    let values ← arrayFields? names items
    ofFields? kind values
  | _ => none

/-- Reads a pattern that nests at most `room` arrays and objects. -/
def ofJson? (room : Nat) (j : Json) : Option Pattern := if j.sound room then ofValue? j else none

end Pattern

namespace Span

/-- Offsets have 64 bits. -/
def offsetLimit : Nat := Nat.pow 2 64

/-- Reads an offset, an integer without a sign. -/
def offset? : Json → Option Nat
  | .number lexeme => do
    let n ← Numeral.ofLexeme? lexeme
    if n.integral ∧ ¬n.negative ∧ n.floor < offsetLimit then
      some n.floor
    else none
  | _ => none

def ofJson? (j : Json) : Option Span := do
  match ← record? ["start", "end"] j with
  | [start, stop] =>
    let start ← required? offset? start
    let stop ← required? offset? stop
    some ⟨start, stop⟩
  | _ => none

end Span

def AliasDecl.ofJson? (room : Nat) (j : Json) : Option AliasDecl := do
  match ← record? ["name", "target"] j with
  | [name, target] =>
    let name ← required? string? name
    let target ← required? (TypeRef.ofJson? (room - 1)) target
    some ⟨name, target⟩
  | _ => none

def UnionDecl.ofJson? (room : Nat) (j : Json) : Option UnionDecl := do
  match ← record? ["name", "variants", "span"] j with
  | [name, variants, span] =>
    let name ← required? string? name
    let variants ← required? (list? (TypeRef.ofJson? (room - 2))) variants
    let span ← optional? Span.ofJson? span
    some ⟨name, variants, span⟩
  | _ => none

def MatchArm.ofJson? (room : Nat) (j : Json) : Option MatchArm := do
  match ← record? ["pattern", "result", "span"] j with
  | [pattern, result, span] =>
    let pattern ← required? (Pattern.ofJson? (room - 1)) pattern
    let result ← optional? string? result
    let span ← optional? Span.ofJson? span
    some ⟨pattern, result, span⟩
  | _ => none

def MatchExpr.ofJson? (room : Nat) (j : Json) : Option MatchExpr := do
  match ← record? ["scrutinee", "union", "arms", "span"] j with
  | [scrutinee, union, arms, span] =>
    let scrutinee ← required? (TypeRef.ofJson? (room - 1)) scrutinee
    let union ← optional? string? union
    let arms ← required? (list? (MatchArm.ofJson? (room - 2))) arms
    let span ← optional? Span.ofJson? span
    some ⟨scrutinee, union, arms, span⟩
  | _ => none

namespace Document

def ofJson? (j : Json) : Option Document := do
  match ← record? ["source", "aliases", "unions", "matches"] j with
  | [source, aliases, unions, expressions] =>
    let source ← optional? string? source
    let aliases ← listOrEmpty? (AliasDecl.ofJson? (depthLimit - 2)) aliases
    let unions ← listOrEmpty? (UnionDecl.ofJson? (depthLimit - 2)) unions
    let expressions ← listOrEmpty? (MatchExpr.ofJson? (depthLimit - 2)) expressions
    some ⟨source, aliases, unions, expressions⟩
  | _ => none

def ofJsonText? (text : String) : Option Document := (parse? text).bind ofJson?

end Document

end MatchCover
