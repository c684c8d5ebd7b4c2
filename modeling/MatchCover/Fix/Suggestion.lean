import MatchCover.Coverage.Summary
import MatchCover.Fix.Binding
import MatchCover.Fix.Template
import MatchCover.Snapshot.Document

/-!
# Suggested fixes

A match that misses variants is completed by one arm for each of them, or by one discard arm.
-/

namespace MatchCover

inductive FixPreference where
  | arms
  | discard
  deriving DecidableEq, Repr

structure FixStyle where
  prefer : FixPreference := .arms
  /-- The template of an added arm. -/
  armTemplate : String := "\x7btype\x7d \x7bbinding\x7d => todo"
  deriving DecidableEq, Repr

inductive FixAction where
  | addDiscardArm
  | addVariantArms (variants : List TypeRef)
  deriving DecidableEq, Repr

structure Fix where
  action : FixAction
  title : String
  /-- The texts of the added arms. -/
  arms : List String
  /-- The offset after which they go, if an arm of the match has a place. -/
  insertAt : Option Nat
  deriving DecidableEq, Repr

namespace Fix

def boundNames (m : MatchExpr) : List String :=
  (m.arms.filterMap (·.pattern.binding?)).eraseDups

/-- The arms for the missing variants, with bindings that are free in the match. -/
def variantArms (m : MatchExpr) (missing : List TypeRef) (template : String) : List String :=
  missing.zipWith
    (fun t binding => String.ofList (Template.renderArm template.toList t binding.toList))
    (Binding.namesFor (boundNames m) missing)

def suggest (m : MatchExpr) (missing : List TypeRef) (style : FixStyle) : Fix :=
  match style.prefer with
  | .discard => {
      action := .addDiscardArm
      title := "add a discard arm `_` to handle remaining cases"
      arms := [String.ofList (Template.renderDiscard style.armTemplate.toList)]
      insertAt := m.insertionOffset? }
  | .arms => {
      action := .addVariantArms missing
      title := "add arms for " ++
        ", ".intercalate (missing.map fun t => Coverage.quotedName t.display)
      arms := variantArms m missing style.armTemplate
      insertAt := m.insertionOffset? }

end Fix

end MatchCover
