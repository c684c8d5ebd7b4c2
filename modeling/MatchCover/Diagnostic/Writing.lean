import MatchCover.Diagnostic.Basic
import MatchCover.Snapshot.Writing

/-!
# Diagnostics in JSON

The fields of a diagnostic in a fixed order; the number of an arm, notes and a fix are left off
where there are none.
-/

namespace MatchCover

open Json

def FixAction.toJson : FixAction → Json
  | addDiscardArm => ofFields [("kind", ofString "add_discard_arm")]
  | addVariantArms variants =>
    ofFields
      [("kind", ofString "add_variant_arms"), ("variants", array (variants.map TypeRef.toJson))]

def Json.ofNat (n : Nat) : Json := ofInt n

def Fix.toJson (f : Fix) : Json :=
  ofFields
    [("kind", f.action.toJson), ("title", ofString f.title),
      ("arms", array (f.arms.map ofString)), ("insert_at", ofOption ofNat f.insertAt)]

namespace Diagnostic

def toJson (d : Diagnostic) : Json :=
  ofFields
    ([("kind", ofString d.kind.name), ("code", ofString d.kind.code),
        ("severity", ofString d.severity.name), ("message", ofString d.message),
        ("span", ofOption Span.toJson d.span)] ++
      d.arm.toList.map (fun n => ("arm", ofNat n)) ++
      (if d.notes.isEmpty then [] else [("notes", array (d.notes.map ofString))]) ++
      d.fix.toList.map fun f => ("fix", f.toJson))

def jsonText (ds : List Diagnostic) : String := pretty (array (ds.map toJson))

end Diagnostic

end MatchCover
