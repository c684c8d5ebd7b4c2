import MatchCover.Proofs.Fix.Insertion

/-!
# Insertions as one pass over bytes

Insertions carried out from the last place to the first leave the same text as one pass over the
bytes of the source that stops at each position, the one past the last byte included, and first
writes the texts meant for it (`Edit.applyAll_as_one_pass`). The pass never stops inside a character
with something to write, since such an edit is refused.
-/

namespace MatchCover

namespace Text

variable {s t : List Char}

/-- The UTF-8 encoding of a text. -/
def bytes (s : List Char) : List UInt8 := s.flatMap String.utf8EncodeChar

@[simp] theorem bytes_append : bytes (s ++ t) = bytes s ++ bytes t := List.flatMap_append

theorem length_bytes : (bytes s).length = byteLength s := by
  induction s with
  | nil => rfl
  | cons c s ih =>
    rw [bytes] at ih ⊢
    rw [List.flatMap_cons, List.length_append, String.length_utf8EncodeChar, ih, byteLength]

theorem bytes_inj : bytes s = bytes t ↔ s = t := by
  rw [← String.ofList_inj, ← String.toByteArray_inj, String.toByteArray_ofList,
    String.toByteArray_ofList, List.utf8Encode, List.utf8Encode, List.toByteArray_inj]
  rfl

end Text

namespace Edit

open Text (bytes bytes_append bytes_inj length_bytes byteLength InsideChar)

variable {edits edits' before after : List Edit} {e : Edit} {offset o : Nat} {s : List Char}
  {source out : String} {f g : Nat → List UInt8} {b : UInt8} {bs cs : List UInt8}

/-! ## The pass -/

/-- A pass over bytes that writes, at each position, what is meant for it and then the byte that is
there. -/
def pass (inserted : Nat → List UInt8) (source : List UInt8) : List UInt8 :=
  (List.range (source.length + 1)).flatMap fun o => inserted o ++ source[o]?.toList

theorem pass_nil : pass f [] = f 0 := by simp [pass]

theorem pass_cons : pass f (b :: bs) = f 0 ++ b :: pass (fun o => f (o + 1)) bs := by
  simp only [pass, List.length_cons]
  rw [List.range_succ_eq_map, List.flatMap_cons, List.flatMap_map]
  simp

/-- Bytes for which nothing is meant are passed over. -/
theorem pass_append (h : ∀ o < bs.length, f o = []) :
    pass f (bs ++ cs) = bs ++ pass (fun o => f (o + bs.length)) cs := by
  induction bs generalizing f with
  | nil => rfl
  | cons b bs ih =>
    rw [List.length_cons] at h
    rw [List.cons_append, pass_cons, h 0 (by omega), ih fun o ho => h (o + 1) (by omega)]
    simp [Nat.add_assoc]

theorem sublist_pass : bs.Sublist (pass f bs) := by
  induction bs generalizing f with
  | nil => exact List.nil_sublist _
  | cons b bs ih =>
    rw [pass_cons]
    exact (ih.cons_cons b).trans (List.sublist_append_right _ _)

/-- A pass that writes something else at one position does the same before it and after it. -/
theorem exists_pass_eq_around (ho : o ≤ bs.length) (h : ∀ i, i ≠ o → f i = g i) :
    ∃ l r, pass f bs = l ++ f o ++ r ∧ pass g bs = l ++ g o ++ r ∧
      (bs.take o).Sublist l ∧ (bs.drop o).Sublist r := by
  induction bs generalizing o f g with
  | nil =>
    obtain rfl : o = 0 := by simpa using ho
    exact ⟨[], [], by simp [pass_nil], by simp [pass_nil], by simp, by simp⟩
  | cons b bs ih =>
    cases o with
    | zero =>
      have hrest : (fun i => f (i + 1)) = fun i => g (i + 1) := funext fun i => h (i + 1) (by omega)
      refine ⟨[], b :: pass (fun i => g (i + 1)) bs, ?_, ?_, by simp, ?_⟩
      · rw [pass_cons, hrest, List.nil_append]
      · rw [pass_cons, List.nil_append]
      · exact sublist_pass.cons_cons b
    | succ o =>
      rw [List.length_cons] at ho
      have hrest : ∀ i, i ≠ o → f (i + 1) = g (i + 1) := fun i hi => h (i + 1) (by omega)
      obtain ⟨l, r, hf, hg, hl, hr⟩ := ih (Nat.le_of_succ_le_succ ho) hrest
      refine ⟨g 0 ++ b :: l, r, ?_, ?_, ?_, hr⟩
      · rw [pass_cons, hf, h 0 (by omega)]
        simp
      · rw [pass_cons, hg]
        simp
      · exact (hl.cons_cons b).trans (List.sublist_append_right _ _)

/-- Weaving texts into a text is a pass over its bytes, if none goes inside a character. -/
theorem bytes_weave {f : Nat → List Char} (h : ∀ o, InsideChar s o → f (offset + o) = []) :
    bytes (weave f offset s) = pass (fun o => bytes (f (offset + o))) (bytes s) := by
  induction s generalizing offset with
  | nil => exact (pass_nil (f := fun o => bytes (f (offset + o)))).symm
  | cons c s ih =>
    have hlength := String.length_utf8EncodeChar c
    have hs : bytes (c :: s) = String.utf8EncodeChar c ++ bytes s := List.flatMap_cons
    have hwoven : bytes (weave f offset (c :: s)) =
        bytes (f offset) ++ (String.utf8EncodeChar c ++ bytes (weave f (offset + c.utf8Size) s)) := by
      rw [weave, bytes_append]
      rfl
    rw [hwoven, hs, ih fun o ho => by rw [Nat.add_assoc]; exact h _ ho.cons]
    -- the pass stops in front of the first byte of `c` and has nothing to write at the others
    cases hc : String.utf8EncodeChar c with
    | nil => exact absurd hc String.utf8EncodeChar_ne_nil
    | cons b rest =>
      rw [hc, List.length_cons] at hlength
      have hinside : ∀ o < rest.length, bytes (f (offset + (o + 1))) = [] := by
        intro o ho
        rw [h (o + 1) ⟨[], c, s, rfl, by simp [byteLength], by simp [byteLength]; omega⟩]
        rfl
      rw [List.cons_append, List.cons_append, pass_cons, pass_append hinside]
      simp [← hlength, Nat.add_assoc, Nat.add_comm, Nat.add_left_comm]

/-! ## Places -/

/-- The place of the edit is past the end of the source or inside one of its characters. -/
def Misplaced (source : List Char) (e : Edit) : Prop :=
  byteLength source < e.offset ∨ InsideChar source e.offset

theorem isBoundary_eq_false_iff_misplaced :
    Text.isBoundary s e.offset = false ↔ Misplaced s e := by
  rcases Nat.lt_or_ge (byteLength s) e.offset with hlt | hle
  · refine iff_of_true ?_ (.inl hlt)
    rw [← Bool.not_eq_true, Text.isBoundary_iff]
    rintro ⟨before, after, rfl, hlen⟩
    rw [Text.byteLength_append] at hlt
    omega
  · rw [Text.isBoundary_eq_false_iff hle, Misplaced, or_iff_right (by omega)]

theorem isBoundary_eq_true_iff_not_misplaced :
    Text.isBoundary s e.offset = true ↔ ¬ Misplaced s e := by
  rw [← isBoundary_eq_false_iff_misplaced, Bool.not_eq_false]

/-- Edits in their places write nothing inside a character. -/
theorem textAt_of_insideChar (h : ∀ e ∈ edits, ¬ Misplaced s e) (ho : InsideChar s o) :
    textAt edits o = [] := by
  apply textAt_eq_nil
  rintro e he rfl
  exact h e he (.inr ho)

theorem textAt_append : textAt (before ++ after) o = textAt before o ++ textAt after o := by
  simp [textAt]

/-! ## Carrying out -/

theorem applyAll_eq_ok_iff_pass : applyAll source edits = .ok out ↔
    (∀ e ∈ edits, ¬ Misplaced source.toList e) ∧
      bytes out.toList = pass (fun o => bytes (textAt edits o)) (bytes source.toList) := by
  rw [applyAll_eq_ok_iff]
  simp only [isBoundary_eq_true_iff_not_misplaced]
  refine and_congr_right fun h => ?_
  have hwoven : bytes (weave (textAt edits) 0 source.toList) =
      pass (fun o => bytes (textAt edits (0 + o))) (bytes source.toList) := by
    apply bytes_weave
    intro o ho
    rw [Nat.zero_add]
    exact textAt_of_insideChar h ho
  simp only [Nat.zero_add] at hwoven
  rw [← hwoven, bytes_inj]

theorem exists_applyAll_eq_ok (h : ∀ e ∈ edits, ¬ Misplaced source.toList e) :
    ∃ out, applyAll source edits = .ok out := by
  refine ⟨String.ofList (weave (textAt edits) 0 source.toList), applyAll_eq_ok_iff.mpr ⟨?_, ?_⟩⟩
  · intro e he
    exact isBoundary_eq_true_iff_not_misplaced.mpr (h e he)
  · exact String.toList_ofList

theorem exists_applyAll_eq_error_iff_misplaced :
    (∃ error, applyAll source edits = .error error) ↔ ∃ e ∈ edits, Misplaced source.toList e := by
  constructor
  · rintro ⟨error, h⟩
    obtain ⟨-, e, he, hno⟩ := exists_of_applyAll_eq_error h
    exact ⟨e, he, isBoundary_eq_false_iff_misplaced.mp hno⟩
  · rintro ⟨e, he, hmisplaced⟩
    cases h : applyAll source edits with
    | error error => exact ⟨error, rfl⟩
    | ok out => exact absurd hmisplaced ((applyAll_eq_ok_iff_pass.mp h).1 e he)

/-- Without one of the edits, the result lacks the text of that edit, at the place the edit has in
the source, and nothing else. -/
theorem exists_applyAll_without
    (h : applyAll source (before ++ e :: after) = .ok out) :
    ∃ l r without, applyAll source (before ++ after) = .ok without ∧
      bytes out.toList = l ++ bytes e.text.toList ++ r ∧ bytes without.toList = l ++ r ∧
      ((bytes source.toList).take e.offset).Sublist l ∧
      ((bytes source.toList).drop e.offset).Sublist r := by
  obtain ⟨hplace, hout⟩ := applyAll_eq_ok_iff_pass.mp h
  have he : e.offset ≤ (bytes source.toList).length := by
    rw [length_bytes]
    exact Nat.le_of_not_lt fun hlt => hplace e (by simp) (.inl hlt)
  have hsub : (before ++ after).Sublist (before ++ e :: after) :=
    (List.sublist_cons_self e after).append_left before
  have hrest : ∀ b ∈ before ++ after, ¬ Misplaced source.toList b :=
    fun b hb => hplace b (hsub.subset hb)
  obtain ⟨without, hwithout⟩ := exists_applyAll_eq_ok hrest
  obtain ⟨-, hbytes⟩ := applyAll_eq_ok_iff_pass.mp hwithout
  have hother : ∀ i, i ≠ e.offset → bytes (textAt (before ++ e :: after) i) =
      bytes (textAt (before ++ after) i) := by
    intro i hi
    rw [textAt_append, textAt_append, textAt_cons, if_neg hi.symm, List.nil_append]
  obtain ⟨l, r, hwith, hless, hl, hr⟩ := exists_pass_eq_around he hother
  refine ⟨l ++ bytes (textAt before e.offset), bytes (textAt after e.offset) ++ r, without,
    hwithout, ?_, ?_, ?_, ?_⟩
  · rw [hout, hwith, textAt_append, textAt_cons, if_pos rfl]
    simp
  · rw [hbytes, hless, textAt_append]
    simp
  · exact hl.trans (List.sublist_append_left _ _)
  · exact hr.trans (List.sublist_append_right _ _)

/-- Only the order of edits for the same place matters. -/
theorem applyAll_congr (h : ∀ o, edits'.filter (·.offset = o) = edits.filter (·.offset = o)) :
    applyAll source edits' = .ok out ↔ applyAll source edits = .ok out := by
  have htext : textAt edits' = textAt edits := by
    funext o
    rw [textAt, textAt, h]
  have hmem : ∀ e, e ∈ edits' ↔ e ∈ edits := by
    intro e
    have hmem : e ∈ edits'.filter (·.offset = e.offset) ↔ e ∈ edits.filter (·.offset = e.offset) := by
      rw [h]
    simpa using hmem
  simp only [applyAll_eq_ok_iff_pass, htext, hmem]

/-- Carrying out edits is one pass over the bytes of the source, which writes the texts for each
position in their order before it goes on. It fails exactly if some edit is past the end or inside a
character, and reports the first of those. So a result has each text once, between what comes from
the source before its place and what comes from the source after it; it keeps the bytes of the
source in their order; and only the order of edits for the same place matters. -/
theorem applyAll_as_one_pass (source : String) (edits : List Edit) :
    ((∃ error, applyAll source edits = .error error) ↔
      ∃ e ∈ edits, Misplaced source.toList e) ∧
    (∀ error, applyAll source edits = .error error →
      ∃ before e after, edits = before ++ e :: after ∧
        (∀ b ∈ before, ¬ Misplaced source.toList b) ∧ Misplaced source.toList e ∧
        error = .malformed ("edit offset " ++ toString e.offset ++
          " is outside the source or inside a character") none) ∧
    (∀ out, applyAll source edits = .ok out ↔
      (∀ e ∈ edits, ¬ Misplaced source.toList e) ∧
        bytes out.toList = pass (fun o => bytes (textAt edits o)) (bytes source.toList)) ∧
    ∀ out, applyAll source edits = .ok out →
      (∀ before e after, edits = before ++ e :: after →
        ∃ l r without, applyAll source (before ++ after) = .ok without ∧
          bytes out.toList = l ++ bytes e.text.toList ++ r ∧ bytes without.toList = l ++ r ∧
          ((bytes source.toList).take e.offset).Sublist l ∧
          ((bytes source.toList).drop e.offset).Sublist r) ∧
      (bytes source.toList).Sublist (bytes out.toList) ∧
      ∀ edits', (∀ o, edits'.filter (·.offset = o) = edits.filter (·.offset = o)) →
        applyAll source edits' = .ok out := by
  refine ⟨exists_applyAll_eq_error_iff_misplaced, fun error h => ?_,
    fun _ => applyAll_eq_ok_iff_pass, fun out h => ⟨?_, ?_, fun edits' hsame => ?_⟩⟩
  · simpa only [isBoundary_eq_true_iff_not_misplaced, isBoundary_eq_false_iff_misplaced] using
      applyAll_eq_error_iff.mp h
  · rintro before e after rfl
    exact exists_applyAll_without h
  · rw [(applyAll_eq_ok_iff_pass.mp h).2]
    exact sublist_pass
  · exact (applyAll_congr hsame).mpr h

/-- Two texts go before a character of two bytes and two after it; none may go inside it. -/
theorem applyAll_as_one_pass_of_multibyte :
    (∃ error, applyAll "aé" [⟨3, "x"⟩, ⟨2, ""⟩, ⟨4, "y"⟩] = .error error ∧
      ∃ before e after, [⟨3, "x"⟩, ⟨2, ""⟩, ⟨4, "y"⟩] = before ++ e :: after ∧
        (∀ b ∈ before, ¬ Misplaced "aé".toList b) ∧ Misplaced "aé".toList e ∧
        error = .malformed ("edit offset " ++ toString e.offset ++
          " is outside the source or inside a character") none) ∧
    applyAll "aé" [⟨3, "x"⟩, ⟨1, ""⟩, ⟨1, "ü"⟩, ⟨3, "y"⟩] = .ok "aüéxy" ∧
    (∃ l r without, applyAll "aé" [⟨3, "x"⟩, ⟨1, ""⟩, ⟨3, "y"⟩] = .ok without ∧
      bytes "aüéxy".toList = l ++ bytes "ü".toList ++ r ∧ bytes without.toList = l ++ r ∧
      ((bytes "aé".toList).take 1).Sublist l ∧ ((bytes "aé".toList).drop 1).Sublist r) ∧
    applyAll "aé" [⟨1, ""⟩, ⟨3, "x"⟩, ⟨3, "y"⟩, ⟨1, "ü"⟩] = .ok "aüéxy" := by
  have herror : applyAll "aé" [⟨3, "x"⟩, ⟨2, ""⟩, ⟨4, "y"⟩] = .error (.malformed
      "edit offset 2 is outside the source or inside a character" none) := rfl
  have hok : applyAll "aé" [⟨3, "x"⟩, ⟨1, ""⟩, ⟨1, "ü"⟩, ⟨3, "y"⟩] = .ok "aüéxy" :=
    applyAll_eq_ok_iff.mpr ⟨by decide, rfl⟩
  obtain ⟨hwithout, -, hsame⟩ := (applyAll_as_one_pass _ _).2.2.2 _ hok
  refine ⟨⟨_, herror, (applyAll_as_one_pass _ _).2.1 _ herror⟩, hok,
    hwithout [⟨3, "x"⟩, ⟨1, ""⟩] ⟨1, "ü"⟩ [⟨3, "y"⟩] rfl, hsame _ fun o => ?_⟩
  by_cases h : 1 = o
  · subst h
    rfl
  · simp [List.filter_cons, h]

end Edit

end MatchCover
