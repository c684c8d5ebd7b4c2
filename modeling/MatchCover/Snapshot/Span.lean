/-!
# Spans

A range of bytes in the source that a snapshot was taken from.
-/

namespace MatchCover

structure Span where
  start : Nat
  stop : Nat
  deriving DecidableEq, Repr

namespace Span

inductive Fault where
  /-- It ends before it starts. -/
  | reversed
  /-- It ends after the source, which has that many bytes. -/
  | pastEnd (sourceLength : Nat)
  deriving DecidableEq, Repr

/-- The fault of a span, where the length of the source need not be known. -/
def fault? (s : Span) (sourceLength : Option Nat) : Option Fault :=
  if s.stop < s.start then some .reversed
  else match sourceLength with
    | some length => if length < s.stop then some (.pastEnd length) else none
    | none => none

def fits (s : Span) (sourceLength : Nat) : Bool := (s.fault? (some sourceLength)).isNone

theorem fits_iff {s : Span} {n : Nat} : s.fits n = true ↔ s.start ≤ s.stop ∧ s.stop ≤ n := by
  simp only [fits, fault?]
  split
  · simp
    omega
  · split <;> simp <;> omega

def display (s : Span) : String := toString s.start ++ ".." ++ toString s.stop

def Fault.message (s : Span) : Fault → String
  | reversed => "span " ++ s.display ++ " ends before it starts"
  | pastEnd length =>
    "span " ++ s.display ++ " runs past the end of the source (" ++ toString length ++ " bytes)"

end Span

end MatchCover
