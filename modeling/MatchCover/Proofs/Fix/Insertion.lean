import Mathlib.Data.List.TakeWhile
import Mathlib.Order.Bounds.Defs
import MatchCover.Fix.Edit
import MatchCover.Proofs.Except
import MatchCover.Proofs.Text.Boundaries

/-!
# Carrying out insertions

Insertions that are carried out from the last place to the first amount to one pass over the source
that puts in, at each place, the texts of the edits for that place in their order
(`applyAll_eq_ok_iff`). The edit for a fix goes after the arm that ends last, and its lines are
indented like the line there (`isIndentAt_indentAt`).
-/

namespace MatchCover

namespace Edit

/-- The texts that edits put at an offset, one after the other. -/
def textAt (edits : List Edit) (offset : Nat) : List Char :=
  (edits.filter (·.offset = offset)).flatMap (·.text.toList)

/-- A text from an offset on, where at each offset a text is put in. -/
def weave (inserted : Nat → List Char) : Nat → List Char → List Char
  | offset, [] => inserted offset
  | offset, c :: s => inserted offset ++ c :: weave inserted (offset + c.utf8Size) s

variable {edits : List Edit} {e : Edit} {offset : Nat} {s : List Char} {source out : String}
  {f g : Nat → List Char}

theorem textAt_cons : textAt (e :: edits) offset =
    (if e.offset = offset then e.text.toList else []) ++ textAt edits offset := by
  unfold textAt
  split <;> simp [*]

theorem textAt_eq_nil (h : ∀ e ∈ edits, e.offset ≠ offset) : textAt edits offset = [] := by
  have hnil : edits.filter (·.offset = offset) = [] := by simpa using h
  rw [textAt, hnil, List.flatMap_nil]

theorem weave_congr (h : ∀ o, offset ≤ o → f o = g o) : weave f offset s = weave g offset s := by
  induction s generalizing offset with
  | nil => exact h offset (Nat.le_refl _)
  | cons c s ih =>
    rw [weave, weave, h offset (Nat.le_refl _), ih fun o ho => h o (by omega)]

theorem weave_append {before after : List Char}
    (h : ∀ o, offset ≤ o → o < offset + Text.byteLength before → f o = []) :
    weave f offset (before ++ after) =
      before ++ weave f (offset + Text.byteLength before) after := by
  induction before generalizing offset with
  | nil => simp [Text.byteLength]
  | cons c before ih =>
    have hc := c.utf8Size_pos
    simp only [Text.byteLength] at h ⊢
    rw [List.cons_append, weave, h offset (Nat.le_refl _) (by omega),
      ih fun o ho hlt => h o (by omega) (by omega), Nat.add_assoc]
    rfl

theorem weave_textAt_cons :
    weave (textAt (e :: edits)) e.offset s = e.text.toList ++ weave (textAt edits) e.offset s := by
  cases s with
  | nil => simp [weave, textAt_cons]
  | cons c s =>
    have hc := c.utf8Size_pos
    have hrest : weave (textAt (e :: edits)) (e.offset + c.utf8Size) s =
        weave (textAt edits) (e.offset + c.utf8Size) s := by
      apply weave_congr
      intro o ho
      rw [textAt_cons, if_neg (by omega), List.nil_append]
    simp [weave, textAt_cons, hrest]

theorem weave_nil : weave (textAt []) offset s = s := by
  induction s generalizing offset with
  | nil => rfl
  | cons c s ih => simp [weave, ih, textAt]

/-- In ascending order of their places, the edits are carried out from the last one on. -/
theorem foldr_insertAt (hsorted : edits.Pairwise fun a b => a.offset ≤ b.offset)
    (hplace : ∀ e ∈ edits, Text.isBoundary s e.offset = true) :
    edits.foldr (fun e s => insertAt s e.offset e.text.toList) s = weave (textAt edits) 0 s := by
  induction edits with
  | nil => exact weave_nil.symm
  | cons e edits ih =>
    obtain ⟨hfirst, hsorted⟩ := List.pairwise_cons.mp hsorted
    obtain ⟨he, hplace⟩ := List.forall_mem_cons.mp hplace
    obtain ⟨before, after, rfl, hlen⟩ := Text.isBoundary_iff.mp he
    -- all edits lie after `before`, which stands in front of what is woven
    have hbefore (es : List Edit) (hes : ∀ b ∈ es, e.offset ≤ b.offset) :
        weave (textAt es) 0 (before ++ after) = before ++ weave (textAt es) e.offset after := by
      rw [← hlen, weave_append, Nat.zero_add]
      intro o _ ho
      apply textAt_eq_nil
      intro b hb
      have := hes b hb
      omega
    have hsplit : Text.splitAt? (before ++ weave (textAt edits) e.offset after) e.offset =
        some (before, weave (textAt edits) e.offset after) :=
      Text.splitAt?_eq_some.mpr ⟨rfl, hlen⟩
    rw [List.foldr_cons, ih hsorted hplace, hbefore edits hfirst, insertAt, hsplit,
      hbefore (e :: edits) (List.forall_mem_cons.mpr ⟨(Nat.le_refl _), hfirst⟩), weave_textAt_cons]
    simp

theorem pairwise_mergeSort_offset : (edits.mergeSort fun a b => a.offset ≤ b.offset).Pairwise
    fun a b => a.offset ≤ b.offset := by
  have h : (edits.mergeSort fun a b => a.offset ≤ b.offset).Pairwise
      fun a b => decide (a.offset ≤ b.offset) = true :=
    List.pairwise_mergeSort (by simp only [decide_eq_true_eq]; omega)
      (by simp only [Bool.or_eq_true, decide_eq_true_eq]; omega) edits
  exact h.imp of_decide_eq_true

/-- Sorting by place keeps the order of edits for one place. -/
theorem textAt_mergeSort :
    textAt (edits.mergeSort fun a b => a.offset ≤ b.offset) offset = textAt edits offset := by
  have hmerge : (edits.filter (·.offset = offset)).Sublist
      (edits.mergeSort fun a b => a.offset ≤ b.offset) := by
    apply List.sublist_mergeSort
    · simp only [decide_eq_true_eq]
      omega
    · simp only [Bool.or_eq_true, decide_eq_true_eq]
      omega
    · refine List.pairwise_of_forall_mem_list fun a ha b hb => ?_
      simp only [List.mem_filter, decide_eq_true_eq] at ha hb ⊢
      omega
    · exact List.filter_sublist
  have hsub := hmerge.filter (·.offset = offset)
  rw [List.filter_filter] at hsub
  simp only [Bool.and_self] at hsub
  have hperm : (edits.mergeSort fun a b => a.offset ≤ b.offset).Perm edits :=
    List.mergeSort_perm edits _
  rw [textAt, textAt, hsub.eq_of_length (hperm.filter _).length_eq.symm]

theorem applyAll_of_find?_eq_none
    (h : edits.find? (fun e => !Text.isBoundary source.toList e.offset) = none) :
    applyAll source edits =
      .ok (String.ofList (weave (textAt edits) 0 source.toList)) := by
  have hplace : ∀ e ∈ edits.mergeSort fun a b => a.offset ≤ b.offset,
      Text.isBoundary source.toList e.offset = true := by
    intro e he
    simpa using List.find?_eq_none.mp h e (List.mem_mergeSort.mp he)
  have htext : textAt (edits.mergeSort fun a b => a.offset ≤ b.offset) = textAt edits :=
    funext fun o => textAt_mergeSort
  rw [applyAll, h, ← htext, ← foldr_insertAt pairwise_mergeSort_offset hplace]
  rfl

/-- Edits are carried out if each has its place between two characters; the result is the source
with the texts of the edits woven in. -/
theorem applyAll_eq_ok_iff : applyAll source edits = .ok out ↔
    (∀ e ∈ edits, Text.isBoundary source.toList e.offset = true) ∧
      out.toList = weave (textAt edits) 0 source.toList := by
  have hfind : edits.find? (fun e => !Text.isBoundary source.toList e.offset) = none ↔
      ∀ e ∈ edits, Text.isBoundary source.toList e.offset = true := by
    simp
  rw [← hfind]
  constructor
  · intro h
    cases hnone : edits.find? fun e => !Text.isBoundary source.toList e.offset with
    | some e =>
      rw [applyAll, hnone] at h
      cases h
    | none =>
      rw [applyAll_of_find?_eq_none hnone] at h
      cases h
      exact ⟨rfl, String.toList_ofList⟩
  · rintro ⟨hnone, hout⟩
    rw [applyAll_of_find?_eq_none hnone, ← hout, String.ofList_toList]

/-- The first edit that has no place between two characters is refused. -/
theorem applyAll_eq_error_iff {error : CheckError} : applyAll source edits = .error error ↔
    ∃ before e after, edits = before ++ e :: after ∧
      (∀ b ∈ before, Text.isBoundary source.toList b.offset = true) ∧
      Text.isBoundary source.toList e.offset = false ∧
      error = .malformed ("edit offset " ++ toString e.offset ++
        " is outside the source or inside a character") none := by
  constructor
  · intro h
    cases hfind : edits.find? fun e => !Text.isBoundary source.toList e.offset with
    | none =>
      rw [applyAll_of_find?_eq_none hfind] at h
      cases h
    | some e =>
      rw [applyAll, hfind] at h
      cases h
      obtain ⟨he, before, after, rfl, hbefore⟩ := List.find?_eq_some_iff_append.mp hfind
      exact ⟨before, e, after, rfl, fun b hb => by simpa using hbefore b hb, by simpa using he, rfl⟩
  · rintro ⟨before, e, after, rfl, hbefore, he, rfl⟩
    have hfind : (before ++ e :: after).find? (fun e => !Text.isBoundary source.toList e.offset) =
        some e :=
      List.find?_eq_some_iff_append.mpr
        ⟨by simpa using he, before, after, rfl, fun b hb => by simpa using hbefore b hb⟩
    rw [applyAll, hfind]
    rfl

theorem exists_of_applyAll_eq_error {error : CheckError}
    (h : applyAll source edits = .error error) :
    error.span? = none ∧ ∃ e ∈ edits, Text.isBoundary source.toList e.offset = false := by
  obtain ⟨before, e, after, rfl, -, he, rfl⟩ := applyAll_eq_error_iff.mp h
  exact ⟨rfl, e, by simp, he⟩

/-! ## The edit of a fix -/

/-- The line that holds an offset starts with these spaces and tabs and with no more of them. -/
def IsIndentAt (source : List Char) (offset : Nat) (indent : List Char) : Prop :=
  ∃ earlier begun after rest, source = earlier ++ begun ++ after ∧
    Text.byteLength (earlier ++ begun) = offset ∧
    (earlier = [] ∨ earlier.getLast? = some '\n') ∧ '\n' ∉ begun ∧
    begun ++ after = indent ++ rest ∧ (∀ c ∈ indent, c = ' ' ∨ c = '\t') ∧
    ∀ c ∈ rest.head?, c ≠ ' ' ∧ c ≠ '\t'

theorem isIndentAt_indentAt (h : Text.isBoundary s offset = true) :
    IsIndentAt s offset (indentAt s offset) := by
  obtain ⟨before, after, rfl, rfl⟩ := Text.isBoundary_iff.mp h
  have hsplit : Text.splitAt? (before ++ after) (Text.byteLength before) = some (before, after) :=
    Text.splitAt?_eq_some.mpr ⟨rfl, rfl⟩
  have hlines :
      (before.reverse.dropWhile (· != '\n')).reverse ++ Text.lastLine before = before := by
    rw [Text.lastLine, ← List.reverse_append, List.takeWhile_append_dropWhile, List.reverse_reverse]
  simp only [indentAt, hsplit]
  refine ⟨(before.reverse.dropWhile (· != '\n')).reverse, Text.lastLine before, after,
    (Text.lastLine before ++ after).dropWhile fun c => c == ' ' || c == '\t', ?_, ?_, ?_, ?_,
    List.takeWhile_append_dropWhile.symm, ?_, ?_⟩
  · rw [hlines]
  · rw [hlines]
  · -- what is left of the reversed text starts with the line feed that ends the line before
    have hhead := List.head?_dropWhile_not (· != '\n') before.reverse
    cases hdrop : before.reverse.dropWhile (· != '\n') with
    | nil => exact .inl rfl
    | cons c l =>
      rw [hdrop] at hhead
      exact .inr (by simpa using hhead)
  · intro hmem
    simpa using List.mem_takeWhile_imp (List.mem_reverse.mp hmem)
  · intro c hc
    simpa using List.mem_takeWhile_imp hc
  · intro c hc
    have hhead := List.head?_dropWhile_not (fun c => c == ' ' || c == '\t')
      (Text.lastLine before ++ after)
    rw [Option.mem_def.mp hc] at hhead
    simpa using hhead

end Edit

theorem Fix.insertAt_suggest {m : MatchExpr} {missing : List TypeRef} {style : FixStyle} :
    (Fix.suggest m missing style).insertAt = m.insertionOffset? := by
  unfold Fix.suggest
  cases style.prefer <;> rfl

namespace MatchExpr

variable {m : MatchExpr} {offset : Nat}

theorem insertionOffset?_eq_none_iff : m.insertionOffset? = none ↔ m.armSpans = [] := by
  simp [insertionOffset?]

theorem isGreatest_of_insertionOffset? (h : m.insertionOffset? = some offset) :
    IsGreatest {o | ∃ s ∈ m.armSpans, s.stop = o} offset := by
  obtain ⟨hmem, hle⟩ := List.max?_eq_some_iff.mp h
  refine ⟨List.mem_map.mp hmem, ?_⟩
  rintro _ ⟨s, hs, rfl⟩
  exact hle _ (List.mem_map_of_mem hs)

end MatchExpr

end MatchCover
