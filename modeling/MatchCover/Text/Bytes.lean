/-!
# Byte offsets

A place in a text is the number of bytes before it in the UTF-8 encoding. Only the places between
two characters split the text; `prefixWithin` moves any other place back to the nearest of those.
-/

namespace MatchCover.Text

def byteLength : List Char → Nat
  | [] => 0
  | c :: s => c.utf8Size + byteLength s

@[simp] theorem byteLength_append (s t : List Char) :
    byteLength (s ++ t) = byteLength s + byteLength t := by
  induction s with
  | nil => simp [byteLength]
  | cons c s ih => simp [byteLength, ih, Nat.add_assoc]

/-- The text before and after an offset, `none` if the offset is past the end or inside a
character. -/
def splitAt? : List Char → Nat → Option (List Char × List Char)
  | s, 0 => some ([], s)
  | [], _ + 1 => none
  | c :: s, offset + 1 =>
    if c.utf8Size ≤ offset + 1 then
      (splitAt? s (offset + 1 - c.utf8Size)).map fun (before, after) => (c :: before, after)
    else none

theorem splitAt?_eq_some {s : List Char} {offset : Nat} {before after : List Char} :
    splitAt? s offset = some (before, after) ↔
      s = before ++ after ∧ byteLength before = offset := by
  induction s generalizing offset before after with
  | nil =>
    cases offset <;> cases before <;> simp [splitAt?, byteLength, eq_comm]
  | cons c s ih =>
    have hc := c.utf8Size_pos
    cases offset with
    | zero =>
      cases before with
      | nil => simp [splitAt?, byteLength, eq_comm]
      | cons b before =>
        have hb := b.utf8Size_pos
        simp [splitAt?, byteLength]
        omega
    | succ n =>
      cases before with
      | nil =>
        simp only [splitAt?, byteLength]
        split <;> simp
      | cons b before =>
        simp only [splitAt?, byteLength, List.cons_append, List.cons.injEq]
        split
        · simp only [Option.map_eq_some_iff, Prod.mk.injEq, List.cons.injEq, Prod.exists]
          constructor
          · rintro ⟨x, y, h, ⟨rfl, rfl⟩, rfl⟩
            have := ih.1 h
            exact ⟨⟨rfl, this.1⟩, by omega⟩
          · rintro ⟨⟨rfl, hs⟩, h⟩
            exact ⟨before, after, ih.2 ⟨hs, by omega⟩, ⟨rfl, rfl⟩, rfl⟩
        · constructor
          · nofun
          · rintro ⟨⟨rfl, _⟩, h⟩
            omega

/-- Whether an offset lies between two characters, or at an end. -/
def isBoundary (s : List Char) (offset : Nat) : Bool := (splitAt? s offset).isSome

/-- The characters that lie wholly within the first `bytes` bytes. -/
def prefixWithin : List Char → Nat → List Char
  | [], _ => []
  | c :: s, bytes => if c.utf8Size ≤ bytes then c :: prefixWithin s (bytes - c.utf8Size) else []

/-- The part of a text after its last line feed. -/
def lastLine (s : List Char) : List Char := (s.reverse.takeWhile (· != '\n')).reverse

end MatchCover.Text
