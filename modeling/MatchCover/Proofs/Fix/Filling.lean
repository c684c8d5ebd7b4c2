import Mathlib.Tactic.LinearCombination
import Mathlib.Tactic.Zify
import MatchCover.Proofs.Fix.Places

/-!
# Filling the places of a template

An arm is made from its template in two passes, the type first, so that the second pass also sees
the text of the type. It is the template with both places filled at once exactly if no place for the
binding arises from putting the type in, or such a place stays as it is since the binding has its
text (`renderArm_fills_at_once_iff`).
-/

namespace MatchCover.Template

open Text (occurrences substitute substituteEach)

variable {s t b x : List Char}

/-- One pass over a text that puts the type and the binding in their places. -/
def fill (type binding s : List Char) : List Char :=
  substituteEach [(typePlace, type), (bindingPlace, binding)] s

/-! ## Cutting at the places for the binding -/

theorem fill_of_free (h : ¬ bindingPlace <:+: s) : fill t b s = substitute typePlace t s := by
  rw [Text.substitute_eq_substituteEach, ← Text.substituteEach_concat_of_free h]
  rfl

theorem fill_piece : fill t b (x ++ (bindingPlace ++ s)) = fill t b x ++ (b ++ fill t b s) := by
  have hseam : ∀ rule ∈ [(typePlace, t), (bindingPlace, b)],
      rule.1 ≠ [] ∧ Text.Apart rule.1 x (bindingPlace ++ s) := by
    have hrule {p : List Char} (hp : IsPlace p) :
        p ≠ [] ∧ Text.Apart p x (bindingPlace ++ s) :=
      ⟨hp.ne_nil, hp.apart_right isPlace_binding.braced⟩
    simpa using ⟨hrule isPlace_type, hrule isPlace_binding⟩
  rw [fill, Text.substituteEach_append hseam, Text.substituteEach_pattern isPlace_binding.ne_nil]
  · rfl
  · simp [typePlace, bindingPlace, List.isPrefixOf]

theorem substitute_type_piece : substitute typePlace t (x ++ (bindingPlace ++ s)) =
    substitute typePlace t x ++ (bindingPlace ++ substitute typePlace t s) := by
  rw [isPlace_type.substitute_around isPlace_binding.braced,
    Text.substitute_of_free (s := bindingPlace) (by decide)]

theorem substitute_binding_piece : substitute bindingPlace b (x ++ (bindingPlace ++ s)) =
    substitute bindingPlace b x ++ (b ++ substitute bindingPlace b s) :=
  Text.substitute_piece isPlace_binding.ne_nil isPlace_binding.unbordered

theorem occurrences_binding_piece : occurrences bindingPlace (x ++ (bindingPlace ++ s)) =
    occurrences bindingPlace x + (1 + occurrences bindingPlace s) :=
  Text.occurrences_piece isPlace_binding.ne_nil isPlace_binding.unbordered

theorem occurrences_binding_of_free (h : ¬ bindingPlace <:+: s) : occurrences bindingPlace s = 0 :=
  (Text.occurrences_eq_zero_iff isPlace_binding.ne_nil).mpr h

/-! ## Places that arise from the type -/

theorem occurrences_le_typed :
    occurrences bindingPlace s ≤ occurrences bindingPlace (substitute typePlace t s) := by
  induction s using Text.pieces_induction isPlace_binding.ne_nil with
  | free s h =>
    rw [occurrences_binding_of_free h]
    exact Nat.zero_le _
  | step x s hx ih =>
    rw [substitute_type_piece, occurrences_binding_piece, occurrences_binding_piece,
      occurrences_binding_of_free hx]
    omega

theorem substitute_typed_of_occurrences_eq
    (h : occurrences bindingPlace (substitute typePlace t s) = occurrences bindingPlace s) :
    substitute bindingPlace b (substitute typePlace t s) = fill t b s := by
  induction s using Text.pieces_induction isPlace_binding.ne_nil with
  | free s hs =>
    rw [occurrences_binding_of_free hs, Text.occurrences_eq_zero_iff isPlace_binding.ne_nil] at h
    rw [Text.substitute_of_free h, fill_of_free hs]
  | step x s hx ih =>
    rw [substitute_type_piece, occurrences_binding_piece, occurrences_binding_piece,
      occurrences_binding_of_free hx] at h
    -- neither part can have gained a place, since none can have lost one
    have hle : occurrences bindingPlace s ≤
        occurrences bindingPlace (substitute typePlace t s) := occurrences_le_typed
    have htyped : ¬ bindingPlace <:+: substitute typePlace t x :=
      (Text.occurrences_eq_zero_iff isPlace_binding.ne_nil).mp (by omega)
    rw [substitute_type_piece, substitute_binding_piece, fill_piece, ih (by omega),
      Text.substitute_of_free htyped, fill_of_free hx]

theorem fill_bindingPlace : fill t bindingPlace s = substitute typePlace t s := by
  induction s using Text.pieces_induction isPlace_binding.ne_nil with
  | free s h => exact fill_of_free h
  | step x s hx ih => rw [fill_piece, substitute_type_piece, fill_of_free hx, ih]

theorem length_fill :
    (fill t b s).length + bindingPlace.length * occurrences bindingPlace s =
      (substitute typePlace t s).length + b.length * occurrences bindingPlace s := by
  induction s using Text.pieces_induction isPlace_binding.ne_nil with
  | free s h => rw [fill_of_free h, occurrences_binding_of_free h, Nat.mul_zero, Nat.mul_zero]
  | step x s hx ih =>
    rw [fill_piece, substitute_type_piece, fill_of_free hx, occurrences_binding_piece,
      occurrences_binding_of_free hx, Nat.zero_add, Nat.mul_add, Nat.mul_add]
    simp only [List.length_append]
    omega

/-- If binding and place have the same length, the pieces of equal results are equal. -/
theorem occurrences_typed_of_length_eq (hlen : b.length = bindingPlace.length)
    (hb : b ≠ bindingPlace)
    (h : substitute bindingPlace b (substitute typePlace t s) = fill t b s) :
    occurrences bindingPlace (substitute typePlace t s) = occurrences bindingPlace s := by
  have hfree {y : List Char} (hy : substitute bindingPlace b y = y) :
      occurrences bindingPlace y = 0 :=
    occurrences_binding_of_free (Text.not_infix_of_substitute_eq_self isPlace_binding.ne_nil
      isPlace_binding.unbordered hlen hb hy)
  induction s using Text.pieces_induction isPlace_binding.ne_nil with
  | free s hs =>
    rw [fill_of_free hs] at h
    rw [hfree h, occurrences_binding_of_free hs]
  | step x s hx ih =>
    rw [substitute_type_piece, substitute_binding_piece, fill_piece, fill_of_free hx] at h
    have hsame := Text.length_substitute (s := substitute typePlace t x) (r := b)
      isPlace_binding.ne_nil isPlace_binding.unbordered
    rw [hlen, Nat.add_right_cancel_iff] at hsame
    obtain ⟨hpiece, hrest⟩ := List.append_inj h hsame
    rw [substitute_type_piece, occurrences_binding_piece, occurrences_binding_piece,
      ih (List.append_cancel_left hrest), hfree hpiece, occurrences_binding_of_free hx]

theorem occurrences_typed_of_eq (hb : b ≠ bindingPlace)
    (h : substitute bindingPlace b (substitute typePlace t s) = fill t b s) :
    occurrences bindingPlace (substitute typePlace t s) = occurrences bindingPlace s := by
  by_cases hlen : b.length = bindingPlace.length
  · exact occurrences_typed_of_length_eq hlen hb h
  · -- each place replaced changes the length, so both passes have replaced equally many
    have htwice := Text.length_substitute (s := substitute typePlace t s) (r := b)
      isPlace_binding.ne_nil isPlace_binding.unbordered
    have honce := length_fill (s := s) (t := t) (b := b)
    rw [h] at htwice
    generalize occurrences bindingPlace (substitute typePlace t s) = m at htwice ⊢
    generalize occurrences bindingPlace s = n at honce ⊢
    have hprod : ((b.length : Int) - bindingPlace.length) * (m - n) = 0 := by
      zify at htwice honce
      linear_combination honce - htwice
    rcases mul_eq_zero.mp hprod with hzero | hzero
    · omega
    · omega

/-- Where the type makes no new place for the binding, the arm is the template with the display of
the type and the binding in their places. -/
theorem renderArm_eq_fill {template : List Char} {t : TypeRef} {binding : List Char}
    (h : occurrences bindingPlace (substitute typePlace t.chars template) =
      occurrences bindingPlace template) :
    renderArm template t binding = fill t.chars binding template :=
  substitute_typed_of_occurrences_eq h

/-- The arm is the template with type and binding put in their places at once exactly if the binding
has the text of its place, or putting the type in makes no place for the binding that was not there
before. Otherwise the binding also replaces the places that have come from the type. -/
theorem renderArm_fills_at_once_iff (template : List Char) (t : TypeRef) (binding : List Char) :
    renderArm template t binding = fill t.chars binding template ↔
      binding = bindingPlace ∨
        occurrences bindingPlace (substitute typePlace t.chars template) =
          occurrences bindingPlace template := by
  constructor
  · intro h
    by_cases hb : binding = bindingPlace
    · exact .inl hb
    · exact .inr (occurrences_typed_of_eq hb h)
  · rintro (rfl | h)
    · rw [fill_bindingPlace]
      exact Text.substitute_self isPlace_binding.ne_nil isPlace_binding.unbordered
    · exact renderArm_eq_fill h

/-- The name of the type is the place for the binding, and the binding is put there too. -/
theorem renderArm_fills_place_in_type :
    ∃ template t binding, template = "\x7btype\x7d \x7bbinding\x7d => todo".toList ∧
      t = TypeRef.named "\x7bbinding\x7d" ∧ binding = "value".toList ∧
      renderArm template t binding = "value value => todo".toList ∧
      fill t.chars binding template = "\x7bbinding\x7d value => todo".toList ∧
      renderArm template t binding ≠ fill t.chars binding template :=
  ⟨_, _, _, rfl, rfl, rfl, by decide +kernel, by decide +kernel, by decide +kernel⟩

end MatchCover.Template
