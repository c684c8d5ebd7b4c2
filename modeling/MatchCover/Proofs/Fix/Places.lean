import MatchCover.Fix.Template
import MatchCover.Proofs.Text.Substitution

/-!
# Places of a template

A place starts with the only opening and ends with the only closing brace it has. So no place lies
across the seam in front of a text that a brace opens, or behind one that a brace closes, and what
is done to the places of a template can be done piece by piece.
-/

namespace MatchCover.Template

open Text (Apart Unbordered substitute occurrences)

variable {p q r s u v w x : List Char}

/-- The place for the type or the place for the binding. -/
def IsPlace (p : List Char) : Prop := p = typePlace ∨ p = bindingPlace

/-- A text that an opening brace starts and a closing one ends. -/
def Braced (w : List Char) : Prop := w.head? = some '{' ∧ w.getLast? = some '}'

theorem braced_pattern : Braced patternPlace := ⟨rfl, rfl⟩

theorem unbordered_pattern : Unbordered patternPlace := by decide

namespace IsPlace

theorem ne_nil (hp : IsPlace p) : p ≠ [] := by
  rcases hp with rfl | rfl <;> decide

theorem braced (hp : IsPlace p) : Braced p := by
  rcases hp with rfl | rfl <;> exact ⟨rfl, rfl⟩

theorem unbordered (hp : IsPlace p) : Unbordered p := by
  rcases hp with rfl | rfl <;> decide

theorem infix_iff (hp : IsPlace p) (hq : IsPlace q) : p <:+: q ↔ p = q := by
  rcases hp with rfl | rfl <;> rcases hq with rfl | rfl <;> decide

theorem apart_right (hp : IsPlace p) (hw : Braced w) : Apart p u (w ++ v) := by
  apply Text.apart_of_head
  rw [List.head?_append, hw.1]
  rintro _ ⟨rfl⟩
  rcases hp with rfl | rfl <;> decide

theorem apart_left (hp : IsPlace p) (hw : Braced w) : Apart p (u ++ w) v := by
  apply Text.apart_of_last
  rw [List.getLast?_append, hw.2]
  rintro _ ⟨rfl⟩
  rcases hp with rfl | rfl <;> decide

theorem infix_around (hp : IsPlace p) (hw : Braced w) :
    p <:+: u ++ (w ++ v) ↔ p <:+: u ∨ p <:+: w ∨ p <:+: v := by
  have hleft : Apart p w v := hp.apart_left (u := []) hw
  rw [Text.infix_append_of_apart (hp.apart_right hw), Text.infix_append_of_apart hleft]

theorem occurrences_around (hp : IsPlace p) (hw : Braced w) :
    occurrences p (u ++ (w ++ v)) =
      occurrences p u + (occurrences p w + occurrences p v) := by
  have hleft : Apart p w v := hp.apart_left (u := []) hw
  rw [Text.occurrences_append hp.ne_nil (hp.apart_right hw),
    Text.occurrences_append hp.ne_nil hleft]

theorem substitute_around (hp : IsPlace p) (hw : Braced w) :
    substitute p r (u ++ (w ++ v)) =
      substitute p r u ++ (substitute p r w ++ substitute p r v) := by
  have hleft : Apart p w v := hp.apart_left (u := []) hw
  rw [Text.substitute_append hp.ne_nil (hp.apart_right hw),
    Text.substitute_append hp.ne_nil hleft]

end IsPlace

theorem isPlace_type : IsPlace typePlace := .inl rfl

theorem isPlace_binding : IsPlace bindingPlace := .inr rfl

end MatchCover.Template
