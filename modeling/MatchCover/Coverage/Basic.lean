/-!
# Coverage of a union by the arms of a match

A value of a union belongs to one of its variants. A discard covers every value and a type test
every value of its type; a literal is only one value of its type and so covers nothing. Types are
compared by their keys, whatever `key` makes of them. A pattern whose type is unknown tells nothing.
-/

namespace MatchCover.Coverage

/-- What matters of the pattern of an arm. -/
inductive Arm (α : Type) where
  | discard
  /-- A constant of the type, if that is known. -/
  | literal (type : Option α)
  /-- All values of the type, if that is known. -/
  | typeTest (type : Option α)
  deriving DecidableEq, Repr

variable {α κ : Type} [DecidableEq κ]

namespace Arm

def isDiscard : Arm α → Bool
  | discard => true
  | _ => false

def tested? (key : α → κ) : Arm α → Option κ
  | typeTest (some t) => some (key t)
  | _ => none

def literal? (key : α → κ) : Arm α → Option κ
  | literal (some t) => some (key t)
  | _ => none

end Arm

def testedKeys (key : α → κ) (arms : List (Arm α)) : List κ := arms.filterMap (·.tested? key)

def literalKeys (key : α → κ) (arms : List (Arm α)) : List κ := arms.filterMap (·.literal? key)

/-- Keeps the first variant of each key, except for the keys that were seen already. -/
def firstOfEach (key : α → κ) : (seen : List κ) → List α → List α
  | _, [] => []
  | seen, v :: vs =>
    if key v ∈ seen then firstOfEach key seen vs else v :: firstOfEach key (key v :: seen) vs

inductive Verdict (α : Type) where
  | exhaustive
  /-- The variants that are not covered, in the order of declaration; there is at least one. -/
  | missing (variants : List α)
  deriving DecidableEq, Repr

namespace Verdict

def ofMissing : List α → Verdict α
  | [] => exhaustive
  | variants => missing variants

def isExhaustive : Verdict α → Bool
  | exhaustive => true
  | missing _ => false

def missingVariants : Verdict α → List α
  | exhaustive => []
  | missing variants => variants

end Verdict

/-- Checks that the arms cover all variants. Of variants with one key only the first is reported. -/
def check (key : α → κ) (variants : List α) (arms : List (Arm α)) : Verdict α :=
  if arms.any Arm.isDiscard then .exhaustive
  else .ofMissing (firstOfEach key [] (variants.filter (key · ∉ testedKeys key arms)))

/-- The arms that can never be chosen among `arms`, which are numbered from `index`: those after a
discard, and those whose type an arm before them tests for. -/
def unreachableFrom (key : α → κ) (index : Nat) (tested : List κ) : List (Arm α) → List Nat
  | [] => []
  | .discard :: arms => List.range' (index + 1) arms.length
  | .typeTest (some t) :: arms =>
    if key t ∈ tested then index :: unreachableFrom key (index + 1) tested arms
    else unreachableFrom key (index + 1) (key t :: tested) arms
  | .literal (some t) :: arms =>
    if key t ∈ tested then index :: unreachableFrom key (index + 1) tested arms
    else unreachableFrom key (index + 1) tested arms
  | _ :: arms => unreachableFrom key (index + 1) tested arms

/-- The numbers of the arms that can never be chosen, from zero. -/
def unreachableArms (key : α → κ) (arms : List (Arm α)) : List Nat := unreachableFrom key 0 [] arms

/-- The variants that are not covered though a literal is of their type. -/
def literalOnly (key : α → κ) (variants : List α) (arms : List (Arm α)) : List α :=
  if arms.any Arm.isDiscard then []
  else firstOfEach key []
    (variants.filter fun v => key v ∈ literalKeys key arms ∧ key v ∉ testedKeys key arms)

structure Report (α : Type) where
  verdict : Verdict α
  unreachable : List Nat
  literalOnly : List α
  deriving DecidableEq, Repr

def analyze (key : α → κ) (variants : List α) (arms : List (Arm α)) : Report α where
  verdict := check key variants arms
  unreachable := unreachableArms key arms
  literalOnly := literalOnly key variants arms

end MatchCover.Coverage
