import MatchCover.Json.Token
import MatchCover.Proofs.Json.Numbers
import MatchCover.Proofs.Json.Strings

/-!
# Scanning JSON

`Token.scan` takes a text apart token by token. The lemmas about it all have one form: if what
follows scans as some tokens, the text with one more token or space in front scans as those with
that token in front.
-/

namespace MatchCover.Json.Token

variable {s rest text : List Char} {t : Token} {ts : List Token} {c : Char}

/-! ## One step of a scan -/

@[simp] theorem scan_nil : scan [] = some [] := by rw [scan]

theorem scan_space (h : isSpace c = true) : scan (c :: s) = scan s := by
  rw [scan, if_pos h]

theorem scan_spaces (h : ∀ c ∈ text, isSpace c = true) : scan (text ++ s) = scan s := by
  induction text with
  | nil => rfl
  | cons c text ih =>
    obtain ⟨hc, htext⟩ := List.forall_mem_cons.mp h
    rw [List.cons_append, scan_space hc, ih htext]

theorem isSpace_iff : isSpace c = true ↔ c = ' ' ∨ c = '\n' ∨ c = '\t' ∨ c = '\r' := by
  simp [isSpace, or_assoc]

theorem next?_space (h : isSpace c = true) : next? (c :: s) = none := by
  rcases isSpace_iff.mp h with rfl | rfl | rfl | rfl <;> rfl

theorem scan_next (h : next? s = some (t, rest)) (hrest : scan rest = some ts) :
    scan s = some (t :: ts) := by
  cases s with
  | nil => cases h
  | cons c s =>
    have hc : ¬isSpace c = true := by
      intro hc
      rw [next?_space hc] at h
      cases h
    rw [scan, if_neg hc]
    split
    · next hnone =>
      rw [h] at hnone
      cases hnone
    · next t' rest' hnext =>
      rw [h] at hnext
      cases hnext
      rw [hrest, Option.map_some]

/-! ## Tokens -/

theorem isNumberChar_mark (m : Mark) : Numeral.isNumberChar m.char = false := by
  cases m <;> decide

theorem scan_mark (m : Mark) (h : scan rest = some ts) :
    scan (m.char :: rest) = some (mark m :: ts) := by
  refine scan_next ?_ h
  cases m <;> rfl

theorem scan_null (h : scan rest = some ts) :
    scan ('n' :: 'u' :: 'l' :: 'l' :: rest) = some (null :: ts) :=
  scan_next rfl h

theorem scan_true (h : scan rest = some ts) :
    scan ('t' :: 'r' :: 'u' :: 'e' :: rest) = some (bool true :: ts) :=
  scan_next rfl h

theorem scan_false (h : scan rest = some ts) :
    scan ('f' :: 'a' :: 'l' :: 's' :: 'e' :: rest) = some (bool false :: ts) :=
  scan_next rfl h

theorem scan_string {pieces : List Piece} (hpieces : ∀ p ∈ pieces, p.Plain)
    (h : scan rest = some ts) : scan (stringChars pieces ++ rest) = some (string pieces :: ts) := by
  refine scan_next ?_ h
  have hread := readString_flatMap hpieces rest
  simp only [stringChars, List.cons_append, List.append_assoc, List.nil_append]
  show (readString _).map _ = _
  rw [hread]
  rfl

/-- A number that stands in a text ends before the rest of the text. -/
def Breaks (rest : List Char) : Prop := ∀ c ∈ rest.head?, Numeral.isNumberChar c = false

theorem takeWhile_of_breaks (h : Breaks rest) : rest.takeWhile Numeral.isNumberChar = [] := by
  cases rest with
  | nil => rfl
  | cons c rest => rw [List.takeWhile_cons_of_neg (by simp [h c rfl])]

theorem dropWhile_of_breaks (h : Breaks rest) : rest.dropWhile Numeral.isNumberChar = rest := by
  cases rest with
  | nil => rfl
  | cons c rest => rw [List.dropWhile_cons_of_neg (by simp [h c rfl])]

/-- A character of a number starts no other token. -/
theorem ofChar?_of_isNumberChar (h : Numeral.isNumberChar c = true) :
    Mark.ofChar? c = none ∧ c ≠ '"' := by
  constructor
  · rw [Option.eq_none_iff_forall_ne_some]
    intro m hm
    have hc : c = m.char := by grind [Mark.ofChar?, Mark.char]
    rw [hc, isNumberChar_mark] at h
    cases h
  · rintro rfl
    revert h
    decide

theorem scan_number {lexeme : List Char} (hlexeme : IsLexeme lexeme) (hrest : Breaks rest)
    (h : scan rest = some ts) : scan (lexeme ++ rest) = some (number lexeme :: ts) := by
  refine scan_next ?_ h
  obtain ⟨hchars, hread⟩ := hlexeme
  have htake : (lexeme ++ rest).takeWhile Numeral.isNumberChar = lexeme := by
    rw [List.takeWhile_append_of_pos hchars, takeWhile_of_breaks hrest, List.append_nil]
  have hdrop : (lexeme ++ rest).dropWhile Numeral.isNumberChar = rest := by
    rw [List.dropWhile_append_of_pos hchars, dropWhile_of_breaks hrest]
  cases lexeme with
  | nil => cases hread
  | cons c lexeme =>
    have hc := hchars c List.mem_cons_self
    obtain ⟨hmark, hquote⟩ := ofChar?_of_isNumberChar hc
    rw [List.cons_append] at htake hdrop ⊢
    simp only [next?, hmark, if_neg hquote, if_pos hc, htake, hread, hdrop]
    rfl

end MatchCover.Json.Token
