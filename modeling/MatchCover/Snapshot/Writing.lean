import MatchCover.Decimal.Layout
import MatchCover.Json.Printer
import MatchCover.Snapshot.Document

/-!
# Writing snapshots

The JSON value of a document and its parts: all fields in a fixed order, absent ones as null, types
always as objects.
-/

namespace MatchCover

open Json

def Json.ofFields (fields : List (String × Json)) : Json :=
  object (fields.map fun (name, value) => (Piece.ofString name, value))

/-- An optional value, null if there is none. -/
def Json.ofOption {α : Type} (write : α → Json) : Option α → Json
  | none => null
  | some value => write value

mutual

def TypeRef.toJson : TypeRef → Json
  | ⟨name, args, nullable⟩ =>
    ofFields
      [("name", ofString name), ("args", array (TypeRef.toJsons args)), ("nullable", bool nullable)]
termination_by structural t => t

def TypeRef.toJsons : List TypeRef → List Json
  | [] => []
  | t :: ts => TypeRef.toJson t :: TypeRef.toJsons ts
termination_by structural ts => ts

end

/-- In JSON a number is written with an exponent from `1e+16` on and below `1e-5`. -/
def Json.layout : Layout where
  leastPlace := -4
  exponentPlace := 17
  plusSign := true
  tie := .even

def Literal.toJson : Literal → Json
  | .bool value => Json.bool value
  | .int value => ofInt value
  | .float value => number (Json.layout.write value)
  | .string value => ofString value
  | .null => Json.null

def Span.toJson (s : Span) : Json := ofFields [("start", ofInt s.start), ("end", ofInt s.stop)]

def Pattern.toJson : Pattern → Json
  | .discard => ofFields [("kind", ofString "discard")]
  | .literal value type =>
    ofFields
      [("kind", ofString "literal"), ("value", value.toJson), ("ty", ofOption TypeRef.toJson type)]
  | .typeTest type binding =>
    ofFields
      [("kind", ofString "type_test"), ("ty", ofOption TypeRef.toJson type),
        ("binding", ofOption ofString binding)]

def AliasDecl.toJson (a : AliasDecl) : Json :=
  ofFields [("name", ofString a.name), ("target", a.target.toJson)]

def UnionDecl.toJson (u : UnionDecl) : Json :=
  ofFields
    [("name", ofString u.name), ("variants", array (u.variants.map TypeRef.toJson)),
      ("span", ofOption Span.toJson u.span)]

def MatchArm.toJson (a : MatchArm) : Json :=
  ofFields
    [("pattern", a.pattern.toJson), ("result", ofOption ofString a.result),
      ("span", ofOption Span.toJson a.span)]

def MatchExpr.toJson (m : MatchExpr) : Json :=
  ofFields
    [("scrutinee", m.scrutinee.toJson), ("union", ofOption ofString m.union),
      ("arms", array (m.arms.map MatchArm.toJson)), ("span", ofOption Span.toJson m.span)]

def Document.toJson (d : Document) : Json :=
  ofFields
    [("source", ofOption ofString d.source), ("aliases", array (d.aliases.map AliasDecl.toJson)),
      ("unions", array (d.unions.map UnionDecl.toJson)),
      ("matches", array (d.expressions.map MatchExpr.toJson))]

end MatchCover
