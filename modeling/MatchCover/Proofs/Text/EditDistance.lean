import Mathlib.Data.List.Infix
import Mathlib.Order.Bounds.Defs
import MatchCover.Text.EditDistance

/-!
# Fewest edits

One row of distances is overwritten from the left to the right for each character of a text. At any
place of the pass the entries so far are those of the text with the character, and the entries that
follow are those of the text without it (`overwrite_halfRow`). So the row obeys the recursion on the
last characters of both texts (`editDistance_eq_distance_reverse`). Edits that lead from one text to
another are at least as many as the distance, since one edit changes the distance to any text by one
at most (`distance_le_of_charEdit`), and the recursion tells how to get there with no more
(`charEdits_distance`).
-/

namespace MatchCover.Text

/-- One character is inserted, deleted or changed. -/
inductive CharEdit : List Char → List Char → Prop where
  | insert (l r : List Char) (c : Char) : CharEdit (l ++ r) (l ++ c :: r)
  | delete (l r : List Char) (c : Char) : CharEdit (l ++ c :: r) (l ++ r)
  | change (l r : List Char) (c d : Char) : CharEdit (l ++ c :: r) (l ++ d :: r)

/-- A number of edits that turn one text into another. -/
inductive CharEdits : Nat → List Char → List Char → Prop where
  | none (a : List Char) : CharEdits 0 a a
  | cons {n : Nat} {a b c : List Char} : CharEdit a b → CharEdits n b c → CharEdits (n + 1) a c

variable {a a' b c : List Char} {x y : Char} {m n : Nat}

/-! ## Edits -/

theorem CharEdit.symm (h : CharEdit a b) : CharEdit b a := by
  cases h with
  | insert l r c => exact .delete l r c
  | delete l r c => exact .insert l r c
  | change l r c d => exact .change l r d c

theorem CharEdit.cons (x : Char) (h : CharEdit a b) : CharEdit (x :: a) (x :: b) := by
  cases h with
  | insert l r c => exact .insert (x :: l) r c
  | delete l r c => exact .delete (x :: l) r c
  | change l r c d => exact .change (x :: l) r c d

/-- An edit of the text that is read from its end. -/
theorem CharEdit.reverse (h : CharEdit a b) : CharEdit a.reverse b.reverse := by
  cases h with
  | insert l r c => simpa using CharEdit.insert r.reverse l.reverse c
  | delete l r c => simpa using CharEdit.delete r.reverse l.reverse c
  | change l r c d => simpa using CharEdit.change r.reverse l.reverse c d

theorem CharEdits.trans (h : CharEdits m a b) (h' : CharEdits n b c) : CharEdits (m + n) a c := by
  induction h with
  | none a => rwa [Nat.zero_add]
  | cons he _ ih =>
    rw [Nat.add_right_comm]
    exact .cons he (ih h')

theorem CharEdits.symm (h : CharEdits n a b) : CharEdits n b a := by
  induction h with
  | none a => exact .none a
  | cons he _ ih => exact ih.trans (.cons he.symm (.none _))

theorem CharEdits.reverse (h : CharEdits n a b) : CharEdits n a.reverse b.reverse := by
  induction h with
  | none a => exact .none a.reverse
  | cons he _ ih => exact .cons he.reverse ih

/-- A first character that both texts have is left alone. -/
theorem CharEdits.keep (x : Char) (h : CharEdits n a b) : CharEdits n (x :: a) (x :: b) := by
  induction h with
  | none a => exact .none (x :: a)
  | cons he _ ih => exact .cons (he.cons x) ih

theorem CharEdits.deleteFirst (x : Char) (h : CharEdits n a b) : CharEdits (n + 1) (x :: a) b :=
  .cons (.delete [] a x) h

theorem CharEdits.changeFirst (x y : Char) (h : CharEdits n a b) :
    CharEdits (n + 1) (x :: a) (y :: b) :=
  .cons (.change [] a x y) (h.keep y)

/-- Of two ways the one with fewer edits is taken. -/
theorem charEdits_min (h : CharEdits m a b) (h' : CharEdits n a b) : CharEdits (min m n) a b := by
  rcases Nat.le_total m n with hle | hle
  · rwa [Nat.min_eq_left hle]
  · rwa [Nat.min_eq_right hle]

/-! ## The recursion on both texts -/

/-- The distance of two texts, by their first characters. -/
def distance : (a b : List Char) → Nat
  | [], b => b.length
  | x :: a, [] => (x :: a).length
  | x :: a, y :: b =>
    min (min (distance a b + if x = y then 0 else 1) (distance a (y :: b) + 1))
      (distance (x :: a) b + 1)
termination_by a b => a.length + b.length

@[simp] theorem distance_nil_left (b : List Char) : distance [] b = b.length := by
  rw [distance]

@[simp] theorem distance_nil_right (a : List Char) : distance a [] = a.length := by
  cases a <;> rw [distance]

theorem distance_cons_cons (x y : Char) (a b : List Char) :
    distance (x :: a) (y :: b) =
      min (min (distance a b + if x = y then 0 else 1) (distance a (y :: b) + 1))
        (distance (x :: a) b + 1) := by
  rw [distance]

/-! ## The row of distances -/

/-- The row in which the entry of place `k` is the distance of the text `p k` to the first `k`
characters of `b`, both read from the end. -/
def rowOf (b : List Char) (p : Nat → List Char) : Array Nat :=
  Array.ofFn fun k : Fin (b.length + 1) => distance (p k) (b.take k).reverse

/-- The row that is overwritten for `c` up to place `j`. -/
def halfRow (c : Char) (p b : List Char) (j : Nat) : Array Nat :=
  rowOf b fun k => if k ≤ j then c :: p else p

variable {f g : Nat → List Char} {p rest : List Char} {j k v : Nat}

@[simp] theorem size_rowOf (b : List Char) (f : Nat → List Char) :
    (rowOf b f).size = b.length + 1 := by
  simp [rowOf]

@[simp] theorem getElem_rowOf (h : k < (rowOf b f).size) :
    (rowOf b f)[k] = distance (f k) (b.take k).reverse := by
  simp [rowOf]

theorem getElem!_rowOf (f : Nat → List Char) (h : k ≤ b.length) :
    (rowOf b f)[k]! = distance (f k) (b.take k).reverse := by
  rw [getElem!_pos (rowOf b f) k (by simpa using Nat.lt_succ_of_le h), getElem_rowOf]

theorem rowOf_congr (h : ∀ k ≤ b.length, f k = g k) : rowOf b f = rowOf b g := by
  refine Array.ext (by simp) fun k hk _ => ?_
  rw [getElem_rowOf, getElem_rowOf, h k (by simpa [Nat.lt_succ_iff] using hk)]

/-- One entry is overwritten. -/
theorem set!_rowOf (hv : v = distance (g j) (b.take j).reverse) (h : ∀ k ≠ j, f k = g k) :
    (rowOf b f).set! j v = rowOf b g := by
  rw [Array.set!_eq_setIfInBounds]
  refine Array.ext (by simp) fun k hk _ => ?_
  rw [Array.getElem_setIfInBounds (by simpa using hk), getElem_rowOf, getElem_rowOf]
  split
  · next hjk => rw [hv, hjk]
  · next hjk => rw [h k (Ne.symm hjk)]

theorem set!_halfRow (c : Char) (p b : List Char) (j : Nat) :
    (halfRow c p b j).set! (j + 1) (distance (c :: p) (b.take (j + 1)).reverse) =
      halfRow c p b (j + 1) := by
  refine set!_rowOf (by rw [if_pos (Nat.le_refl _)]) fun k hk => ?_
  have hle : k ≤ j ↔ k ≤ j + 1 := by omega
  simp only [hle]

/-- A pass that has come to place `j` ends with the row of the text that is one character longer:
the entries that it has written are new ones, and those that it has still to read are old ones. -/
theorem overwrite_halfRow (c : Char) (p : List Char) (h : b.drop j = rest) (hj : j ≤ b.length) :
    overwrite c rest j (distance p (b.take j).reverse) (halfRow c p b j) =
      rowOf b fun _ => c :: p := by
  induction rest generalizing j with
  | nil =>
    rw [List.drop_eq_nil_iff] at h
    exact rowOf_congr fun k hk => if_pos (hk.trans h)
  | cons y rest ih =>
    have hlt : j < b.length := by
      rw [← Nat.not_le, ← List.drop_eq_nil_iff, h]
      exact List.cons_ne_nil y rest
    rw [List.drop_eq_getElem_cons hlt, List.cons.injEq] at h
    obtain ⟨hy, hrest⟩ := h
    have htake : (b.take (j + 1)).reverse = y :: (b.take j).reverse := by
      rw [List.take_succ_eq_append_getElem hlt, hy, List.reverse_append, List.reverse_singleton,
        List.singleton_append]
    have habove : (halfRow c p b j)[j + 1]! = distance p (b.take (j + 1)).reverse := by
      rw [halfRow, getElem!_rowOf _ hlt, if_neg (Nat.not_succ_le_self j)]
    have hleft : (halfRow c p b j)[j]! = distance (c :: p) (b.take j).reverse := by
      rw [halfRow, getElem!_rowOf _ hj, if_pos (Nat.le_refl j)]
    have hentry := distance_cons_cons c y p (b.take j).reverse
    rw [← htake] at hentry
    rw [overwrite, habove, hleft, ← hentry, set!_halfRow, ih hrest hlt]

/-- Reading the rest of a text gives the row of the whole text. -/
theorem readRow_rowOf (p rest b : List Char) :
    readRow b rest p.length (rowOf b fun _ => p) = rowOf b fun _ => rest.reverse ++ p := by
  induction rest generalizing p with
  | nil => rfl
  | cons c rest ih =>
    have hhalf : (rowOf b fun _ => p).set! 0 (p.length + 1) = halfRow c p b 0 := by
      refine set!_rowOf (by simp) fun k hk => ?_
      rw [if_neg (by omega)]
    have hpass := overwrite_halfRow c p (List.drop_zero (l := b)) (Nat.zero_le _)
    have hread := ih (c :: p)
    rw [List.length_cons] at hread
    rw [readRow, getElem!_rowOf _ (Nat.zero_le _), hhalf, hpass, hread, List.reverse_cons,
      List.append_assoc, List.singleton_append]

theorem editDistance_eq_distance_reverse (a b : List Char) :
    editDistance a b = distance a.reverse b.reverse := by
  have hfirst : Array.range (b.length + 1) = rowOf b fun _ => [] := by
    refine Array.ext (by simp) fun k hk _ => ?_
    have hle : k ≤ b.length := by simpa [Nat.lt_succ_iff] using hk
    simp [hle]
  have hread := readRow_rowOf [] a b
  rw [List.length_nil] at hread
  rw [editDistance, hfirst, hread, getElem!_rowOf _ (Nat.le_refl _), List.take_length,
    List.append_nil]

/-! ## One edit changes a distance by one at most -/

theorem distance_cons_right_le (y : Char) (a b : List Char) :
    distance a (y :: b) ≤ distance a b + 1 := by
  cases a with
  | nil => simp
  | cons x a =>
    rw [distance_cons_cons]
    omega

theorem distance_cons_left_le (x : Char) (a b : List Char) :
    distance (x :: a) b ≤ distance a b + 1 := by
  cases b with
  | nil => simp
  | cons y b =>
    rw [distance_cons_cons]
    omega

theorem distance_le_cons_left (x : Char) (a b : List Char) :
    distance a b ≤ distance (x :: a) b + 1 := by
  induction b with
  | nil =>
    simp only [distance_nil_right, List.length_cons]
    omega
  | cons y b ih =>
    have hright := distance_cons_right_le y a b
    rw [distance_cons_cons]
    omega

theorem distance_change_le (x y : Char) (a b : List Char) :
    distance (x :: a) b ≤ distance (y :: a) b + 1 := by
  induction b with
  | nil => simp
  | cons z b ih =>
    rw [distance_cons_cons, distance_cons_cons]
    split <;> omega

theorem distance_cons_le_of_le (h : ∀ b, distance a b ≤ distance a' b + 1) (x : Char)
    (b : List Char) : distance (x :: a) b ≤ distance (x :: a') b + 1 := by
  induction b with
  | nil => simpa using h []
  | cons y b ih =>
    have hdiagonal := h b
    have habove := h (y :: b)
    rw [distance_cons_cons, distance_cons_cons]
    omega

theorem distance_append_le_of_le (h : ∀ b, distance a b ≤ distance a' b + 1)
    (l b : List Char) : distance (l ++ a) b ≤ distance (l ++ a') b + 1 := by
  induction l generalizing b with
  | nil => exact h b
  | cons x l ih => exact distance_cons_le_of_le ih x b

theorem distance_le_of_charEdit (h : CharEdit a a') (b : List Char) :
    distance a b ≤ distance a' b + 1 := by
  cases h with
  | insert l r c => exact distance_append_le_of_le (distance_le_cons_left c r) l b
  | delete l r c => exact distance_append_le_of_le (distance_cons_left_le c r) l b
  | change l r c d => exact distance_append_le_of_le (distance_change_le c d r) l b

/-! ## The least number -/

theorem distance_self (a : List Char) : distance a a = 0 := by
  induction a with
  | nil => exact distance_nil_left []
  | cons x a ih => simp [distance_cons_cons, ih]

theorem distance_le_of_charEdits (h : CharEdits n a b) : distance a b ≤ n := by
  induction h with
  | none a => rw [distance_self]
  | cons he _ ih => exact (distance_le_of_charEdit he _).trans (Nat.succ_le_succ ih)

theorem charEdits_distance (a b : List Char) : CharEdits (distance a b) a b := by
  induction a generalizing b with
  | nil =>
    induction b with
    | nil =>
      rw [distance_nil_left]
      exact .none []
    | cons y b ih =>
      rw [distance_nil_left] at ih ⊢
      exact (ih.symm.deleteFirst y).symm
  | cons x a iha =>
    induction b with
    | nil =>
      have h := (iha []).deleteFirst x
      rwa [distance_nil_right] at h ⊢
    | cons y b ihb =>
      have hdiagonal : CharEdits (distance a b + if x = y then 0 else 1) (x :: a) (y :: b) := by
        split
        · next hxy => exact hxy ▸ (iha b).keep x
        · exact (iha b).changeFirst x y
      have hdelete := (iha (y :: b)).deleteFirst x
      have hinsert := (ihb.symm.deleteFirst y).symm
      rw [distance_cons_cons]
      exact charEdits_min (charEdits_min hdiagonal hdelete) hinsert

theorem isLeast_editDistance (a b : List Char) :
    IsLeast {n | CharEdits n a b} (editDistance a b) := by
  rw [editDistance_eq_distance_reverse]
  constructor
  · have h := (charEdits_distance a.reverse b.reverse).reverse
    rwa [List.reverse_reverse, List.reverse_reverse] at h
  · exact fun n h => distance_le_of_charEdits h.reverse

theorem eq_of_charEdits_zero (h : CharEdits 0 a b) : a = b := by
  cases h with
  | none => rfl

theorem editDistance_eq_zero_iff : editDistance a b = 0 ↔ a = b := by
  constructor
  · intro h
    have hedits := (isLeast_editDistance a b).1
    rw [h] at hedits
    exact eq_of_charEdits_zero hedits
  · rintro rfl
    exact Nat.le_zero.mp ((isLeast_editDistance a a).2 (.none a))

/-- The edit distance of two texts is the least number of characters to insert, delete or change to
turn the one into the other. So it is a distance: zero from a text to itself only, the same both
ways, and no longer than a way round by another text. -/
theorem editDistance_counts_fewest_edits (a b : List Char) :
    IsLeast {n | CharEdits n a b} (editDistance a b) ∧
    editDistance a b = editDistance b a ∧
    (editDistance a b = 0 ↔ a = b) ∧
    ∀ c, editDistance a c ≤ editDistance a b + editDistance b c := by
  have hle (a b : List Char) : editDistance a b ≤ editDistance b a :=
    (isLeast_editDistance a b).2 (isLeast_editDistance b a).1.symm
  refine ⟨isLeast_editDistance a b, le_antisymm (hle a b) (hle b a), editDistance_eq_zero_iff, ?_⟩
  intro c
  exact (isLeast_editDistance a c).2
    ((isLeast_editDistance a b).1.trans (isLeast_editDistance b c).1)

example : editDistance "kitten".toList "sitting".toList = 3 := by decide +kernel

end MatchCover.Text
