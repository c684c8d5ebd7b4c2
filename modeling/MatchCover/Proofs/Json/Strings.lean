import Mathlib.Tactic.SplitIfs
import MatchCover.Json.Printer

/-!
# Strings in JSON

Between quotes every character of a string is written in a way that `readString` takes back
(`readString_flatMap`), and the pieces that write a string have it as their text
(`string?_ofString`).
-/

namespace MatchCover

namespace Piece

/-- A piece that can stand between quotes. -/
def Plain : Piece → Prop
  | char c => 0x20 ≤ c.toNat ∨ c ∈ ['\x08', '\x0c', '\n', '\r', '\t']
  | unit code => code < 0x10000

theorem plain_ofChar (c : Char) : (ofChar c).Plain := by
  unfold ofChar
  split
  · next h =>
    simp only [Plain]
    omega
  · next h =>
    simp only [Plain]
    by_cases hc : c.toNat < 0x20
    · exact .inr (Decidable.not_not.mp fun hmem => h ⟨hc, hmem⟩)
    · exact .inl (Nat.le_of_not_lt hc)

theorem plain_ofString {s : String} {p : Piece} (h : p ∈ ofString s) : p.Plain := by
  obtain ⟨c, -, rfl⟩ := List.mem_map.mp h
  exact plain_ofChar c

theorem text?_map_ofChar (s : List Char) : text? (s.map ofChar) = some s := by
  induction s with
  | nil => rfl
  | cons c s ih =>
    rw [List.map_cons, ofChar]
    split
    · next h =>
      have hhigh : isHighSurrogate c.toNat = false := by
        simp only [isHighSurrogate, Bool.and_eq_false_iff, decide_eq_false_iff_not]
        omega
      have hlow : isLowSurrogate c.toNat = false := by
        simp only [isLowSurrogate, Bool.and_eq_false_iff, decide_eq_false_iff_not]
        omega
      unfold text?
      simp [hhigh, hlow, ih]
    · simp [text?, ih]

theorem text?_ofString (s : String) : text? (ofString s) = some s.toList :=
  text?_map_ofChar s.toList

@[simp] theorem string?_ofString (s : String) : string? (ofString s) = some s := by
  simp [string?, text?_ofString]

end Piece

namespace Json

open Token (hexValue? unit? readString)

theorem hexValue?_hexDigit {n : Nat} (h : n < 16) : hexValue? (hexDigit n) = some n := by
  revert n
  decide

theorem unit?_hexDigits {code : Nat} (h : code < 0x10000) :
    unit? (hexDigit (code / 4096 % 16)) (hexDigit (code / 256 % 16)) (hexDigit (code / 16 % 16))
      (hexDigit (code % 16)) = some code := by
  simp only [unit?, hexValue?_hexDigit (Nat.mod_lt _ (by decide : 0 < 16)), Option.bind_eq_bind,
    Option.bind_some, Option.some.injEq]
  omega

section
variable {s rest : List Char} {pieces : List Piece} {c letter : Char}

theorem readString_escape (hu : letter ≠ 'u') (hletter : Piece.escaped? letter = some c)
    (h : readString s = some (pieces, rest)) :
    readString ('\\' :: letter :: s) = some (.char c :: pieces, rest) := by
  unfold readString
  simp [hu, hletter, h]

theorem readString_char (hquote : c ≠ '"') (hslash : c ≠ '\\') (hc : 0x20 ≤ c.toNat)
    (h : readString s = some (pieces, rest)) :
    readString (c :: s) = some (.char c :: pieces, rest) := by
  unfold readString
  simp [hslash, hc, h]

/-- Reading a string gives back the piece that is written in front. -/
theorem readString_pieceChars {p : Piece} (hp : p.Plain)
    (h : readString s = some (pieces, rest)) :
    readString (pieceChars p ++ s) = some (p :: pieces, rest) := by
  cases p with
  | unit code => simp [pieceChars, readString, unit?_hexDigits hp, h]
  | char c =>
    rw [pieceChars]
    split_ifs with hself hb hf hn hr ht
    · rcases hself with rfl | rfl
      · exact readString_escape (by decide) rfl h
      · exact readString_escape (by decide) rfl h
    · exact hb ▸ readString_escape (by decide) rfl h
    · exact hf ▸ readString_escape (by decide) rfl h
    · exact hn ▸ readString_escape (by decide) rfl h
    · exact hr ▸ readString_escape (by decide) rfl h
    · exact ht ▸ readString_escape (by decide) rfl h
    · rw [not_or] at hself
      refine readString_char hself.1 hself.2 ?_ h
      simpa [Piece.Plain, hb, hf, hn, hr, ht] using hp

end

theorem readString_flatMap {text : List Piece} (htext : ∀ p ∈ text, p.Plain) (rest : List Char) :
    readString (text.flatMap pieceChars ++ '"' :: rest) = some (text, rest) := by
  induction text with
  | nil => rfl
  | cons p text ih =>
    obtain ⟨hp, htext⟩ := List.forall_mem_cons.mp htext
    rw [List.flatMap_cons, List.append_assoc]
    exact readString_pieceChars hp (ih htext)

end Json

end MatchCover
