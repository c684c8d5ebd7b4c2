import MatchCover.Proofs.TypeRef.Structure
import MatchCover.Proofs.TypeRef.Tokens

/-!
# The type notation

The types that the notation can spell are those whose names it can spell. On them `parse` inverts
`display`, and a text that can be read differs from the notation of its type in blanks only.
-/

namespace MatchCover.TypeRef

open Token (Breaks Proper scan isNameChar_eq_true_iff)

/-- A text that the notation takes for one name. -/
def IsName (name : String) : Prop :=
  name ≠ "" ∧ ∀ c ∈ name.toList, Text.isBlank c = false ∧ c ∉ ['<', '>', ',', '?']

/-- All names in the type can be spelled. -/
inductive WellFormed : TypeRef → Prop where
  | mk {name : String} {args : List TypeRef} {nullable : Bool} :
    IsName name → (∀ a ∈ args, WellFormed a) → WellFormed ⟨name, args, nullable⟩

variable {t u : TypeRef} {s : String}

theorem isName_iff {name : String} :
    IsName name ↔ name.toList ≠ [] ∧ ∀ c ∈ name.toList, isNameChar c = true := by
  have hchar (c : Char) :
      isNameChar c = true ↔ Text.isBlank c = false ∧ c ∉ ['<', '>', ',', '?'] := by
    rw [isNameChar_eq_true_iff]
    grind [Mark.ofChar?]
  simp only [IsName, hchar, ne_eq, String.toList_eq_nil_iff]

/-! ## Scanning the notation -/

theorem breaks_moreChars (ts : List TypeRef) (rest : List Char) :
    Breaks (moreChars ts ++ rest) := by
  cases ts <;> simp [Breaks, moreChars] <;> decide

/-- What follows a name in the notation of a type. -/
theorem breaks_chars (args : List TypeRef) (nullable : Bool) {rest : List Char}
    (h : Breaks rest) : Breaks (argChars args ++ (if nullable then ['?'] else []) ++ rest) := by
  cases args with
  | cons t ts =>
    simp [Breaks, argChars]
    decide
  | nil =>
    cases nullable with
    | true =>
      simp [Breaks, argChars]
      decide
    | false => exact h

theorem scan_question {nullable : Bool} (rest : List Char) :
    scan ((if nullable then ['?'] else []) ++ rest) =
      (if nullable then [.mark .question] else []) ++ scan rest := by
  cases nullable with
  | true => exact Token.scan_mark .question
  | false => rfl

theorem scan_moreChars {ts : List TypeRef}
    (h : ∀ t ∈ ts, ∀ rest, Breaks rest → scan (t.chars ++ rest) = t.tokens ++ scan rest)
    (rest : List Char) : scan (moreChars ts ++ rest) = moreTokens ts ++ scan rest := by
  induction ts with
  | nil => exact Token.scan_mark .closing
  | cons t ts ih =>
    obtain ⟨ht, hts⟩ := List.forall_mem_cons.mp h
    calc scan (moreChars (t :: ts) ++ rest)
      _ = scan (Mark.comma.char :: ' ' :: (t.chars ++ (moreChars ts ++ rest))) := by
        simp [moreChars, Mark.char]
      _ = .mark .comma :: scan (t.chars ++ (moreChars ts ++ rest)) := by
        rw [Token.scan_mark, Token.scan_blank (by decide)]
      _ = moreTokens (t :: ts) ++ scan rest := by
        rw [ht _ (breaks_moreChars ts rest), ih hts]
        simp [moreTokens]

theorem scan_argChars {ts : List TypeRef}
    (h : ∀ t ∈ ts, ∀ rest, Breaks rest → scan (t.chars ++ rest) = t.tokens ++ scan rest)
    (rest : List Char) : scan (argChars ts ++ rest) = argTokens ts ++ scan rest := by
  cases ts with
  | nil => rfl
  | cons t ts =>
    obtain ⟨ht, hts⟩ := List.forall_mem_cons.mp h
    calc scan (argChars (t :: ts) ++ rest)
      _ = scan (Mark.opening.char :: (t.chars ++ (moreChars ts ++ rest))) := by
        simp [argChars, Mark.char]
      _ = argTokens (t :: ts) ++ scan rest := by
        rw [Token.scan_mark, ht _ (breaks_moreChars ts rest), scan_moreChars hts]
        simp [argTokens]

/-- The notation of a type scans as its tokens, whatever follows that does not prolong it. -/
theorem scan_chars (h : t.WellFormed) {rest : List Char} (hrest : Breaks rest) :
    scan (t.chars ++ rest) = t.tokens ++ scan rest := by
  induction t using argsInduction generalizing rest with
  | mk name args nullable ih =>
    obtain ⟨hname, hargs⟩ := h
    obtain ⟨hne, hword⟩ := isName_iff.mp hname
    have hbreaks := breaks_chars args nullable hrest
    simp only [chars, tokens, List.append_assoc, List.cons_append] at hbreaks ⊢
    rw [Token.scan_word hne hword hbreaks, scan_argChars, scan_question]
    intro a ha r hr
    exact ih a ha (hargs a ha) hr

theorem scan_display (h : t.WellFormed) : scan t.display.toList = t.tokens := by
  rw [display, String.toList_ofList]
  have hend : Breaks [] := nofun
  simpa using scan_chars h hend

/-! ## Types that are read -/

theorem subset_moreTokens {ts : List TypeRef} (ht : t ∈ ts) : t.tokens ⊆ moreTokens ts := by
  induction ts with
  | nil => cases ht
  | cons u ts ih =>
    intro x hx
    simp only [moreTokens, List.mem_cons, List.mem_append]
    rcases List.mem_cons.mp ht with rfl | ht
    · exact .inr (.inl hx)
    · exact .inr (.inr (ih ht hx))

theorem subset_argTokens {args : List TypeRef} (ht : t ∈ args) : t.tokens ⊆ argTokens args := by
  cases args with
  | nil => cases ht
  | cons u ts =>
    intro x hx
    simp only [argTokens, List.mem_cons, List.mem_append]
    rcases List.mem_cons.mp ht with rfl | ht
    · exact .inr (.inl hx)
    · exact .inr (.inr (subset_moreTokens ht hx))

theorem wellFormed_of_proper (h : Proper t.tokens) : t.WellFormed := by
  induction t using argsInduction with
  | mk name args nullable ih =>
    rw [tokens] at h
    refine .mk (isName_iff.mpr (h _ List.mem_cons_self)) fun a ha => ih a ha fun w hw => h w ?_
    simp only [List.mem_cons, List.mem_append]
    exact .inr (.inl (subset_argTokens ha hw))

theorem wellFormed_of_parse (h : parse s = .ok t) : t.WellFormed := by
  have hproper := Token.proper_scan s.toList
  rw [parse_eq_ok_iff.mp h] at hproper
  exact wellFormed_of_proper hproper

/-- Reading inverts the notation of the types that can be spelled, so that these have different
notations. A text that can be read spells such a type, and it is the notation of that type but for
blanks. -/
theorem parse_inverts_display :
    (∀ t : TypeRef, t.WellFormed → parse t.display = .ok t) ∧
    (∀ t u : TypeRef, t.WellFormed → u.WellFormed → t.display = u.display → t = u) ∧
    ∀ (s : String) (t : TypeRef), parse s = .ok t →
      t.WellFormed ∧
        s.toList.filter (!Text.isBlank ·) = t.display.toList.filter (!Text.isBlank ·) := by
  have hparse (t : TypeRef) (h : t.WellFormed) : parse t.display = .ok t :=
    parse_eq_ok_iff.mpr (scan_display h)
  refine ⟨hparse, ?_, ?_⟩
  · intro t u ht hu heq
    have h := hparse t ht
    rw [heq, hparse u hu] at h
    exact (Except.ok.inj h).symm
  · intro s t h
    have ht := wellFormed_of_parse h
    refine ⟨ht, ?_⟩
    rw [← Token.flatMap_lexeme_scan, ← Token.flatMap_lexeme_scan, parse_eq_ok_iff.mp h,
      scan_display ht]

/-- Nested arguments with marks and a name in another script, from a text with many blanks. -/
theorem parse_inverts_display_of_nested :
    ∃ t : TypeRef,
      t = ⟨"OneOf", [⟨"List", [⟨"имя", [], true⟩], false⟩, ⟨"E", [], false⟩], true⟩ ∧
      parse "OneOf\t< List <имя ?>,E >  ? " = .ok t ∧ t.WellFormed ∧
      t.display = "OneOf<List<имя?>, E>?" ∧ parse t.display = .ok t ∧
      "OneOf\t< List <имя ?>,E >  ? ".toList.filter (!Text.isBlank ·) =
        t.display.toList.filter (!Text.isBlank ·) := by
  have h : parse "OneOf\t< List <имя ?>,E >  ? " =
      .ok ⟨"OneOf", [⟨"List", [⟨"имя", [], true⟩], false⟩, ⟨"E", [], false⟩], true⟩ := by
    decide +kernel
  obtain ⟨hparse, -, hread⟩ := parse_inverts_display
  obtain ⟨ht, hblanks⟩ := hread _ _ h
  exact ⟨_, rfl, h, ht, by decide, hparse _ ht, hblanks⟩

end MatchCover.TypeRef
