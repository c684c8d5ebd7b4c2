import Mathlib.Data.List.TakeWhile
import Mathlib.Tactic.SplitIfs
import MatchCover.Json.Number
import MatchCover.Proofs.Decimal.Range
import MatchCover.Decimal.Layout

/-!
# Numbers in JSON

The lexeme of an integer says that integer and nothing else (`ofLexeme?_intLexeme`), and it stays
in range when it is taken for a floating-point number. The lexeme of a floating-point number has a
point or an exponent, so that it is not read as an integer (`Layout.int?_of_write`).
-/

namespace MatchCover

namespace Decimal

open Json.Numeral (isDigit)

variable {n : Nat} {c : Char}

theorem isDigit_of_mem_digits (h : c ∈ digits n) : isDigit c = true := by
  have hc := Nat.isDigit_of_mem_toDigits (by decide) (by decide) h
  simpa [isDigit, Char.isDigit, Char.le_def] using hc

theorem digits_ne_nil (n : Nat) : digits n ≠ [] := Nat.toDigits_ne_nil

@[simp] theorem ofDigits_digits (n : Nat) : ofDigits (digits n) = n :=
  Nat.ofDigitChars_ten_toDigits

/-- No number but zero starts with a zero. -/
theorem head?_digits_ne (h : n ≠ 0) : (digits n).head? ≠ some '0' := by
  induction n using Nat.strongRecOn with
  | ind n ih =>
    rw [digits, Nat.toDigits_eq_if (by decide)]
    split
    · next hn =>
      have hchar : ∀ m < 10, m ≠ 0 → Nat.digitChar m ≠ '0' := by decide
      simpa using hchar n hn h
    · next hn =>
      have hhead := ih (n / 10) (by omega) (by omega)
      have hne := digits_ne_nil (n / 10)
      rw [digits] at hhead hne
      rwa [List.head?_append, Option.or_of_isSome (by simp [hne])]

end Decimal

namespace Json

open Decimal (digits)

namespace Numeral

variable {s rest : List Char} {n : Numeral}

theorem digits?_digits (n : Nat) : digits? (digits n) = some (digits n, []) := by
  have htake : (digits n).takeWhile isDigit = digits n :=
    List.takeWhile_eq_self_iff.mpr fun c => Decimal.isDigit_of_mem_digits
  have hdrop : (digits n).dropWhile isDigit = [] :=
    List.dropWhile_eq_nil_iff.mpr fun c => Decimal.isDigit_of_mem_digits
  simp [digits?, htake, hdrop, Decimal.digits_ne_nil]

theorem whole?_digits (n : Nat) : whole? (digits n) = some (digits n, []) := by
  have hzero : ¬((digits n).head? = some '0' ∧ (digits n).length ≠ 1) := by
    rintro ⟨hhead, hlength⟩
    by_cases hn : n = 0
    · subst hn
      exact hlength rfl
    · exact Decimal.head?_digits_ne hn hhead
  simp only [whole?, digits?_digits, Option.bind_eq_bind, Option.bind_some, if_neg hzero]

theorem magnitude?_digits (negative : Bool) (n : Nat) :
    magnitude? negative (digits n) = some ⟨negative, digits n, [], none⟩ := by
  simp only [magnitude?, whole?_digits, fraction?, exponent?, Option.bind_eq_bind, Option.bind_some]

theorem ofLexeme?_of_head (h : s.head? ≠ some '-') : ofLexeme? s = magnitude? false s := by
  unfold ofLexeme?
  split
  · exact absurd rfl h
  · rfl

/-- An integer is read as it is written. -/
theorem ofLexeme?_intLexeme (n : Int) :
    ofLexeme? (intLexeme n) = some ⟨n < 0, digits n.natAbs, [], none⟩ := by
  unfold intLexeme
  split
  · next hn =>
    show magnitude? true (digits n.natAbs) = _
    rw [magnitude?_digits]
    simp [hn]
  · next hn =>
    have hhead : (digits n.natAbs).head? ≠ some '-' := by
      intro hc
      have hdigit := Decimal.isDigit_of_mem_digits (List.mem_of_mem_head? hc)
      revert hdigit
      decide
    rw [List.nil_append, ofLexeme?_of_head hhead, magnitude?_digits]
    simp [hn]

theorem int?_intNumeral (n : Int) : int? ⟨n < 0, digits n.natAbs, [], none⟩ = some n := by
  rw [int?, if_pos]
  · simp only [floor, Decimal.ofDigits_digits, decide_eq_true_eq, Option.some.injEq]
    omega
  · simp only [integral, floor, Decimal.ofDigits_digits, decide_eq_true_eq]
    refine ⟨rfl, ?_⟩
    omega

/-! ## Integers as floating-point numbers -/

/-- The number that digits stand for after those of another number. -/
def append (n : Nat) (digits : List Char) : Nat :=
  digits.foldl (fun n c => 10 * n + Decimal.digitValue c) n

theorem le_append (n : Nat) (digits : List Char) : n ≤ append n digits := by
  induction digits generalizing n with
  | nil => exact Nat.le_refl n
  | cons c digits ih =>
    have hstep : n ≤ 10 * n + Decimal.digitValue c := by omega
    exact Nat.le_trans hstep (ih _)

/-- A significand takes up all digits that it has room for. -/
theorem extend_eq_append {digits : List Char} {n : Nat} (h : append n digits ≤ maxSignificand) :
    extend n digits = (append n digits, digits.length) := by
  induction digits generalizing n with
  | nil => rfl
  | cons c digits ih =>
    have hrest : append (10 * n + Decimal.digitValue c) digits ≤ maxSignificand := h
    have hstep := Nat.le_trans (le_append _ digits) hrest
    simp only [extend, if_pos hstep, ih hrest]
    rfl

theorem isSome_float?_intNumeral (negative : Bool) {n : Nat} (h : n < 2 ^ 64) :
    (float? ⟨negative, digits n, [], none⟩).isSome := by
  have hvalue : append 0 (digits n) = n := Decimal.ofDigits_digits n
  have hroom : append 0 (digits n) ≤ maxSignificand := by
    rw [hvalue]
    exact Nat.le_sub_one_of_lt h
  have hextend := extend_eq_append hroom
  rw [hvalue] at hextend
  have hrange := Binary64.isSome_ofNat?_bind_scale? negative h
  simpa [float?, hextend, extend] using hrange

/-! ## Points and exponents -/

theorem digits?_eq_some {digits : List Char} (h : digits? s = some (digits, rest)) :
    digits ≠ [] ∧ s = digits ++ rest ∧ ∀ c ∈ digits, isDigit c = true := by
  unfold digits? at h
  dsimp only at h
  split at h
  · cases h
  · next hne =>
    cases h
    exact ⟨by simpa using hne, List.takeWhile_append_dropWhile.symm,
      fun c => List.mem_takeWhile_imp⟩

theorem fraction?_eq_some_nil (h : fraction? s = some ([], rest)) : rest = s := by
  unfold fraction? at h
  split at h
  · exact absurd rfl (digits?_eq_some h).1
  · cases h
    rfl

theorem exponent?_eq_some_none (h : exponent? s = some none) : s = [] := by
  cases s with
  | nil => rfl
  | cons c s =>
    rw [exponent?] at h
    split at h
    · simp only [Option.bind_eq_bind, Option.bind_eq_some_iff] at h
      obtain ⟨⟨digits, rest⟩, -, h⟩ := h
      dsimp only at h
      split at h <;> cases h
    · cases h

theorem isDigit_of_magnitude? {negative : Bool} (h : magnitude? negative s = some n)
    (hn : n.integral) : ∀ c ∈ s, isDigit c = true := by
  simp only [magnitude?, Option.bind_eq_bind, Option.bind_eq_some_iff, whole?] at h
  obtain ⟨⟨whole, s₁⟩, ⟨⟨digits, s₂⟩, hdigits, hwhole⟩, ⟨fraction, s₃⟩, hfraction, exponent,
    hexponent, h⟩ := h
  cases h
  obtain ⟨hnil, hnone⟩ : fraction = [] ∧ exponent = none := by simpa [integral] using hn
  subst hnil hnone
  obtain ⟨-, rfl, hall⟩ := digits?_eq_some hdigits
  dsimp only at hwhole
  split at hwhole
  · cases hwhole
  · cases hwhole
    have hs₃ : s₃ = [] := exponent?_eq_some_none hexponent
    have hs₁ : s₃ = s₁ := fraction?_eq_some_nil hfraction
    rw [← hs₁, hs₃, List.append_nil]
    exact hall

/-- The lexeme of an integer consists of digits and a sign. -/
theorem isDigit_of_integral (h : ofLexeme? s = some n) (hn : n.integral) {c : Char} (hc : c ∈ s) :
    isDigit c = true ∨ c = '-' := by
  unfold ofLexeme? at h
  split at h
  · rcases List.mem_cons.mp hc with hc | hc
    · exact .inr hc
    · exact .inl (isDigit_of_magnitude? h hn c hc)
  · exact .inl (isDigit_of_magnitude? h hn c hc)

end Numeral

/-- A lexeme that a text can hold. -/
def IsLexeme (lexeme : List Char) : Prop :=
  (∀ c ∈ lexeme, Numeral.isNumberChar c = true) ∧ (Numeral.ofLexeme? lexeme).isSome

theorem Numeral.isNumberChar_of_isDigit {c : Char} (h : isDigit c = true) :
    isNumberChar c = true := by
  simp [isNumberChar, h]

theorem isLexeme_intLexeme (n : Int) : IsLexeme (intLexeme n) := by
  refine ⟨fun c hc => ?_, by simp [Numeral.ofLexeme?_intLexeme]⟩
  rcases List.mem_append.mp hc with hc | hc
  · split at hc
    · rw [List.mem_singleton.mp hc]
      decide
    · cases hc
  · exact Numeral.isNumberChar_of_isDigit (Decimal.isDigit_of_mem_digits hc)

end Json

/-! ## Floating-point numbers -/

namespace Layout

open Decimal (digits)
open Json.Numeral

variable {l : Layout} {x : Binary64} {ds : List Char} {place : Int} {c : Char}

theorem isNumberChar_of_mem_positional (hds : ∀ c ∈ ds, isNumberChar c = true)
    (h : c ∈ positional ds place) : isNumberChar c = true := by
  have hzero : isNumberChar '0' = true := by decide
  have hpoint : isNumberChar '.' = true := by decide
  unfold positional at h
  split_ifs at h
  · simp only [List.mem_cons, List.mem_append, List.mem_replicate] at h
    rcases h with rfl | rfl | ⟨-, rfl⟩ | h
    exacts [hzero, hpoint, hzero, hds c h]
  · simp only [List.mem_cons, List.mem_append, List.mem_replicate, List.not_mem_nil, or_false] at h
    rcases h with (h | ⟨-, rfl⟩) | rfl | rfl
    exacts [hds c h, hzero, hpoint, hzero]
  · simp only [List.mem_cons, List.mem_append] at h
    rcases h with h | rfl | h
    exacts [hds c (List.mem_of_mem_take h), hpoint, hds c (List.mem_of_mem_drop h)]

theorem isNumberChar_of_mem_scientific {plusSign : Bool} (hds : ∀ c ∈ ds, isNumberChar c = true)
    (h : c ∈ scientific plusSign ds place) : isNumberChar c = true := by
  simp only [scientific, List.mem_append, List.mem_cons] at h
  rcases h with (h | h) | rfl | h | h
  · exact hds c (List.mem_of_mem_take h)
  · split at h
    · cases h
    · rcases List.mem_cons.mp h with rfl | h
      · decide
      · exact hds c (List.mem_of_mem_drop h)
  · decide
  · split_ifs at h <;> simp at h <;> subst h <;> decide
  · exact isNumberChar_of_isDigit (Decimal.isDigit_of_mem_digits h)

theorem isNumberChar_of_mem_write (h : c ∈ l.write x) : isNumberChar c = true := by
  have hds (n : Nat) : ∀ c ∈ digits n, isNumberChar c = true := fun c hc =>
    isNumberChar_of_isDigit (Decimal.isDigit_of_mem_digits hc)
  rcases List.mem_append.mp h with h | h
  · split at h
    · rw [List.mem_singleton.mp h]
      decide
    · cases h
  · split_ifs at h
    · exact isNumberChar_of_mem_positional (hds _) h
    · exact isNumberChar_of_mem_positional (hds _) h
    · exact isNumberChar_of_mem_scientific (hds _) h

theorem point_mem_positional : '.' ∈ positional ds place := by
  unfold positional
  split_ifs <;> simp

theorem exponent_mem_scientific {plusSign : Bool} : 'e' ∈ scientific plusSign ds place := by
  simp [scientific]

theorem mark_mem_write : '.' ∈ l.write x ∨ 'e' ∈ l.write x := by
  unfold write
  dsimp only
  generalize (if x.negative then ['-'] else []) = sign
  split_ifs
  · exact .inl (List.mem_append_right _ point_mem_positional)
  · exact .inl (List.mem_append_right _ point_mem_positional)
  · exact .inr (List.mem_append_right _ exponent_mem_scientific)

/-- A floating-point number is not read as an integer. -/
theorem int?_of_write {n : Json.Numeral} (h : ofLexeme? (l.write x) = some n) : n.int? = none := by
  have hn : ¬n.integral := by
    intro hn
    rcases mark_mem_write (l := l) (x := x) with hmem | hmem
    · exact absurd (isDigit_of_integral h hn hmem) (by decide)
    · exact absurd (isDigit_of_integral h hn hmem) (by decide)
  rw [Json.Numeral.int?, if_neg fun hint => hn hint.1]

end Layout

end MatchCover
