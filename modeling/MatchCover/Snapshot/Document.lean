import MatchCover.Error
import MatchCover.Snapshot.Literal
import MatchCover.TypeRef.Basic

/-!
# Snapshots

A snapshot of one source file: every match expression over a union, with the unions and type
aliases that a host knows about. It holds no source text; spans point into the source.
-/

namespace MatchCover

/-- `name` is another spelling of `target`. -/
structure AliasDecl where
  name : String
  target : TypeRef
  deriving DecidableEq, Repr

/-- A named union with its variants in the order of declaration. -/
structure UnionDecl where
  name : String
  variants : List TypeRef
  span : Option Span
  deriving DecidableEq, Repr

/-- The pattern of an arm. A type is absent where the host could not tell it. -/
inductive Pattern where
  /-- `_`, which every value matches. -/
  | discard
  /-- A constant, compared after conversion to the type. -/
  | literal (value : Literal) (type : Option TypeRef)
  /-- All values of a type, under a name if there is a binding. -/
  | typeTest (type : Option TypeRef) (binding : Option String)
  deriving DecidableEq, Repr

/-- An arm; the text of its result is only carried along. -/
structure MatchArm where
  pattern : Pattern
  result : Option String
  span : Option Span
  deriving DecidableEq, Repr

structure MatchExpr where
  scrutinee : TypeRef
  /-- The declared union that the match is over, where the host names it. -/
  union : Option String
  arms : List MatchArm
  span : Option Span
  deriving DecidableEq, Repr

structure Document where
  /-- The path of the source file, relative to the snapshot. -/
  source : Option String
  aliases : List AliasDecl
  unions : List UnionDecl
  expressions : List MatchExpr
  deriving DecidableEq, Repr

def Pattern.isDiscard : Pattern → Bool
  | discard => true
  | _ => false

theorem Pattern.isDiscard_iff {p : Pattern} : p.isDiscard = true ↔ p = .discard := by
  cases p <;> simp [isDiscard]

def Pattern.binding? : Pattern → Option String
  | typeTest _ binding => binding
  | _ => none

def Pattern.literal? : Pattern → Option Literal
  | literal value _ => some value
  | _ => none

namespace MatchExpr

def armSpans (m : MatchExpr) : List Span := m.arms.filterMap (·.span)

/-- Where an added arm goes: after the arm that ends last. -/
def insertionOffset? (m : MatchExpr) : Option Nat := (m.armSpans.map (·.stop)).max?

end MatchExpr

namespace Document

/-- All spans: those of the unions, then for each match its own and those of its arms. -/
def spans (d : Document) : List Span :=
  d.unions.filterMap (·.span) ++ d.expressions.flatMap fun m => m.span.toList ++ m.armSpans

/-- Refuses a document with a faulty span, the first one in order. -/
def checkSpans (d : Document) (sourceLength : Option Nat) : Except CheckError Unit :=
  d.spans.forM fun s =>
    match s.fault? sourceLength with
    | some fault => throw (.malformed (fault.message s) none)
    | none => pure ()

def literals (d : Document) : List Literal :=
  d.expressions.flatMap fun m => m.arms.filterMap (·.pattern.literal?)

theorem mem_spans {d : Document} {s : Span} : s ∈ d.spans ↔ (∃ u ∈ d.unions, u.span = some s) ∨
    ∃ m ∈ d.expressions, m.span = some s ∨ ∃ a ∈ m.arms, a.span = some s := by
  simp [spans, MatchExpr.armSpans]

theorem mem_literals {d : Document} {l : Literal} :
    l ∈ d.literals ↔ ∃ m ∈ d.expressions, ∃ a ∈ m.arms, a.pattern.literal? = some l := by
  simp [literals]

end Document

end MatchCover
