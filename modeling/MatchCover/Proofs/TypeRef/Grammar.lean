import Mathlib.Data.List.TakeWhile
import MatchCover.Proofs.TypeRef.Notation

/-!
# The grammar of the type notation

    text      → type blanks
    type      → blanks name arguments [blanks `?`]
    arguments → [blanks `<` type more]
    more      → blanks `,` type more | blanks `>`

A derivation keeps the blanks and names of a text in their places, so that the text can be told from
it as well as the type. What can come after a name is no character of a name (`breaks_afterName`),
so that the names of a text are maximal runs. Reading accepts the texts that have a derivation and
gives what they stand for (`parse_eq_ok_iff_derivation`): a derived text scans as the tokens of its
type, and a text that scans so is taken apart from the front along the type.
-/

namespace MatchCover.TypeRef

open Token (Breaks scan)

def Blanks := { s : List Char // ∀ c ∈ s, Text.isBlank c = true }

/-- A mark and the blanks in front of it. -/
def marked (before : Blanks) (m : Mark) : List Char := before.val ++ [m.char]

/-- The parts that texts are made of. -/
inductive Part where
  | text
  | type
  | arguments
  | more

/-- How a part of a text is made. -/
inductive Derivation : Part → Type where
  | text (t : Derivation .type) (after : Blanks) : Derivation .text
  | type (before : Blanks) (name : { n : String // IsName n }) (args : Derivation .arguments)
    (question : Option Blanks) : Derivation .type
  | noArguments : Derivation .arguments
  | arguments (before : Blanks) (first : Derivation .type) (more : Derivation .more) :
    Derivation .arguments
  | comma (before : Blanks) (next : Derivation .type) (more : Derivation .more) : Derivation .more
  | closing (before : Blanks) : Derivation .more

/-- What a part of a text stands for. -/
def Part.Meaning : Part → Type
  | text => TypeRef
  | type => TypeRef
  | arguments => List TypeRef
  | more => List TypeRef

/-- The question mark after a type, if there is one. -/
def questionChars : Option Blanks → List Char
  | none => []
  | some before => marked before .question

namespace Derivation

def chars {p : Part} : Derivation p → List Char
  | text t after => t.chars ++ after.val
  | type before name args question =>
    before.val ++ (name.val.toList ++ (args.chars ++ questionChars question))
  | noArguments => []
  | arguments before first more => marked before .opening ++ (first.chars ++ more.chars)
  | comma before next more => marked before .comma ++ (next.chars ++ more.chars)
  | closing before => marked before .closing

/-- What the text stands for. A question mark makes the type that it follows nullable. -/
def meaning {p : Part} : Derivation p → p.Meaning
  | text t _ => t.meaning
  | type _ name args question => (⟨name.val, args.meaning, question.isSome⟩ : TypeRef)
  | noArguments => ([] : List TypeRef)
  | arguments _ first more => (first.meaning :: more.meaning : List TypeRef)
  | comma _ next more => (next.meaning :: more.meaning : List TypeRef)
  | closing _ => ([] : List TypeRef)

end Derivation

/-- The tokens of what a part of a text stands for. -/
def Part.tokens : (p : Part) → p.Meaning → List Token
  | text, t => TypeRef.tokens t
  | type, t => TypeRef.tokens t
  | arguments, ts => argTokens ts
  | more, ts => moreTokens ts

variable {c : Char} {s r r' : List Char} {tokens : List Token} {m m' : Mark} {b b' : Blanks}
  {p : Part}

/-! ## Blanks and marks -/

theorem isNameChar_of_isBlank (h : Text.isBlank c = true) : isNameChar c = false := by
  simp [isNameChar, h]

theorem breaks_blanks (b : Blanks) (h : Breaks r) : Breaks (b.val ++ r) := by
  obtain ⟨l, hl⟩ := b
  cases l with
  | nil => exact h
  | cons c l =>
    rintro _ ⟨⟩
    exact isNameChar_of_isBlank (hl c List.mem_cons_self)

theorem breaks_marked (b : Blanks) (m : Mark) (r : List Char) : Breaks (marked b m ++ r) := by
  rw [marked, List.append_assoc]
  refine breaks_blanks b ?_
  rintro _ ⟨⟩
  cases m <;> rfl

theorem scan_blanks (b : Blanks) (r : List Char) : scan (b.val ++ r) = scan r := by
  obtain ⟨l, hl⟩ := b
  induction l with
  | nil => rfl
  | cons c l ih =>
    obtain ⟨hc, hl⟩ := List.forall_mem_cons.mp hl
    exact (Token.scan_blank hc).trans (ih hl)

theorem scan_marked (b : Blanks) (m : Mark) (r : List Char) :
    scan (marked b m ++ r) = .mark m :: scan r := by
  rw [marked, List.append_assoc, scan_blanks, List.singleton_append, Token.scan_mark]

theorem scan_name {name : String} (h : IsName name) (b : Blanks) (hr : Breaks r) :
    scan (b.val ++ (name.toList ++ r)) = .name name.toList :: scan r := by
  obtain ⟨hne, hword⟩ := isName_iff.mp h
  rw [scan_blanks, Token.scan_word hne hword hr]

theorem scan_blank_text (b : Blanks) : scan b.val = [] := by
  simpa using scan_blanks b []

/-! ## What is derived is read -/

theorem breaks_question (question : Option Blanks) (h : Breaks r) :
    Breaks (questionChars question ++ r) := by
  cases question with
  | none => exact h
  | some b => exact breaks_marked b .question r

theorem scan_question_chars (question : Option Blanks) (r : List Char) :
    scan (questionChars question ++ r) =
      (if question.isSome then [.mark .question] else []) ++ scan r := by
  cases question with
  | none => rfl
  | some b => exact scan_marked b .question r

namespace Derivation

theorem breaks_arguments (args : Derivation .arguments) (h : Breaks r) :
    Breaks (args.chars ++ r) := by
  cases args with
  | noArguments => exact h
  | arguments before first more =>
    rw [chars, List.append_assoc]
    exact breaks_marked before .opening _

theorem breaks_more (more : Derivation .more) (r : List Char) : Breaks (more.chars ++ r) := by
  cases more with
  | comma before next more =>
    rw [chars, List.append_assoc]
    exact breaks_marked before .comma _
  | closing before => exact breaks_marked before .closing r

/-- What can come after a name is no character of a name. -/
theorem breaks_afterName (args : Derivation .arguments) (question : Option Blanks)
    (h : Breaks r) : Breaks (args.chars ++ (questionChars question ++ r)) :=
  breaks_arguments args (breaks_question question h)

/-- A derived text scans as the tokens of what it stands for, whatever follows that does not prolong
it. -/
theorem scan_chars (d : Derivation p) (h : Breaks r) :
    scan (d.chars ++ r) = p.tokens d.meaning ++ scan r := by
  induction d generalizing r with
  | text t after ih =>
    rw [chars, List.append_assoc, ih (breaks_blanks after h), scan_blanks]
    rfl
  | type before name args question ih =>
    rw [chars, List.append_assoc, List.append_assoc, List.append_assoc,
      scan_name name.property before (breaks_afterName args question h),
      ih (breaks_question question h), scan_question_chars]
    simp [Part.tokens, meaning, TypeRef.tokens]
  | noArguments => rfl
  | arguments before first more ihFirst ihMore =>
    rw [chars, List.append_assoc, List.append_assoc, scan_marked, ihFirst (breaks_more more r),
      ihMore h]
    simp [Part.tokens, meaning, argTokens]
  | comma before next more ihNext ihMore =>
    rw [chars, List.append_assoc, List.append_assoc, scan_marked, ihNext (breaks_more more r),
      ihMore h]
    simp [Part.tokens, meaning, moreTokens]
  | closing before => exact scan_marked before .closing r

end Derivation

/-! ## What is read is derived -/

/-- A text is a run of blanks and what follows it. -/
theorem exists_blanks (s : List Char) :
    ∃ (b : Blanks) (r : List Char), s = b.val ++ r ∧ ∀ c ∈ r.head?, Text.isBlank c = false := by
  refine ⟨⟨s.takeWhile Text.isBlank, fun c => List.mem_takeWhile_imp⟩, s.dropWhile Text.isBlank,
    List.takeWhile_append_dropWhile.symm, fun c hc => ?_⟩
  have h := List.head?_dropWhile_not Text.isBlank s
  rw [Option.mem_def.mp hc] at h
  simpa using h

/-- A text is blank, or it starts with a mark or with a name, but for blanks. -/
theorem start_cases (s : List Char) :
    (∃ b : Blanks, s = b.val) ∨ (∃ b m r, s = marked b m ++ r) ∨
      ∃ (b : Blanks) (name : { n : String // IsName n }) (r : List Char), Breaks r ∧
        s = b.val ++ (name.val.toList ++ r) := by
  obtain ⟨b, r, rfl, hr⟩ := exists_blanks s
  cases r with
  | nil => exact .inl ⟨b, List.append_nil _⟩
  | cons c r =>
    rcases Token.char_cases c with hc | ⟨m, rfl⟩ | hc
    · refine .inr (.inr ⟨b, ⟨String.ofList (c :: r.takeWhile isNameChar), ?_⟩,
        r.dropWhile isNameChar, fun c hc => ?_, by simp⟩)
      · rw [isName_iff, String.toList_ofList]
        exact ⟨by simp, List.forall_mem_cons.mpr ⟨hc, fun c => List.mem_takeWhile_imp⟩⟩
      · have h := List.head?_dropWhile_not isNameChar r
        rw [Option.mem_def.mp hc] at h
        simpa using h
    · exact .inr (.inl ⟨b, m, r, by simp [marked]⟩)
    · rw [hr c rfl] at hc
      cases hc

theorem exists_of_scan_eq_nil (h : scan s = []) : ∃ b : Blanks, s = b.val := by
  rcases start_cases s with hs | ⟨b, m, r, rfl⟩ | ⟨b, name, r, hr, rfl⟩
  · exact hs
  · rw [scan_marked] at h
    cases h
  · rw [scan_name name.property b hr] at h
    cases h

theorem exists_of_scan_eq_mark (h : scan s = .mark m :: tokens) :
    ∃ b r, s = marked b m ++ r ∧ scan r = tokens := by
  rcases start_cases s with ⟨b, rfl⟩ | ⟨b, m, r, rfl⟩ | ⟨b, name, r, hr, rfl⟩
  · rw [scan_blank_text] at h
    cases h
  · rw [scan_marked] at h
    cases h
    exact ⟨b, r, rfl, rfl⟩
  · rw [scan_name name.property b hr] at h
    cases h

theorem exists_of_scan_eq_name {name : String} (h : scan s = .name name.toList :: tokens) :
    ∃ (b : Blanks) (r : List Char), IsName name ∧ s = b.val ++ (name.toList ++ r) ∧
      scan r = tokens := by
  rcases start_cases s with ⟨b, rfl⟩ | ⟨b, m, r, rfl⟩ | ⟨b, name, r, hr, rfl⟩
  · rw [scan_blank_text] at h
    cases h
  · rw [scan_marked] at h
    cases h
  · rw [scan_name name.property b hr, List.cons.injEq, Token.name.injEq, String.toList_inj] at h
    obtain ⟨rfl, hr⟩ := h
    exact ⟨b, r, name.property, rfl, hr⟩

/-- A part can be derived from the front of a text that scans as its tokens. -/
def Derivable (p : Part) (x : p.Meaning) : Prop :=
  ∀ s tokens, scan s = p.tokens x ++ tokens →
    ∃ (d : Derivation p) (r : List Char), d.meaning = x ∧ s = d.chars ++ r ∧ scan r = tokens

theorem derivable_more {ts : List TypeRef} (h : ∀ t ∈ ts, Derivable .type t) :
    Derivable .more ts := by
  induction ts with
  | nil =>
    intro s tokens hs
    obtain ⟨b, r, rfl, hr⟩ := exists_of_scan_eq_mark hs
    exact ⟨.closing b, r, rfl, rfl, hr⟩
  | cons t ts ih =>
    obtain ⟨ht, hts⟩ := List.forall_mem_cons.mp h
    intro s tokens hs
    change scan s = moreTokens (t :: ts) ++ tokens at hs
    rw [moreTokens, List.cons_append, List.append_assoc] at hs
    obtain ⟨b, r, rfl, hafter⟩ := exists_of_scan_eq_mark hs
    obtain ⟨d, r, rfl, rfl, hmore⟩ := ht r _ hafter
    obtain ⟨e, r, rfl, rfl, hrest⟩ := ih hts r _ hmore
    exact ⟨.comma b d e, r, rfl, by simp [Derivation.chars], hrest⟩

theorem derivable_arguments {ts : List TypeRef} (h : ∀ t ∈ ts, Derivable .type t) :
    Derivable .arguments ts := by
  cases ts with
  | nil =>
    intro s tokens hs
    exact ⟨.noArguments, s, rfl, rfl, hs⟩
  | cons t ts =>
    obtain ⟨ht, hts⟩ := List.forall_mem_cons.mp h
    intro s tokens hs
    change scan s = argTokens (t :: ts) ++ tokens at hs
    rw [argTokens, List.cons_append, List.append_assoc] at hs
    obtain ⟨b, r, rfl, hafter⟩ := exists_of_scan_eq_mark hs
    obtain ⟨d, r, rfl, rfl, hmore⟩ := ht r _ hafter
    obtain ⟨e, r, rfl, rfl, hrest⟩ := derivable_more hts r _ hmore
    exact ⟨.arguments b d e, r, rfl, by simp [Derivation.chars], hrest⟩

theorem exists_question {nullable : Bool}
    (h : scan s = (if nullable then [.mark .question] else []) ++ tokens) :
    ∃ (q : Option Blanks) (r : List Char), q.isSome = nullable ∧ s = questionChars q ++ r ∧
      scan r = tokens := by
  cases nullable with
  | true =>
    obtain ⟨b, r, rfl, hr⟩ := exists_of_scan_eq_mark h
    exact ⟨some b, r, rfl, rfl, hr⟩
  | false => exact ⟨none, s, rfl, rfl, h⟩

theorem derivable_type (t : TypeRef) : Derivable .type t := by
  induction t using argsInduction with
  | mk name args nullable ih =>
    intro s tokens hs
    change scan s = TypeRef.tokens ⟨name, args, nullable⟩ ++ tokens at hs
    rw [TypeRef.tokens, List.cons_append, List.append_assoc] at hs
    obtain ⟨b, r, hname, rfl, hafter⟩ := exists_of_scan_eq_name hs
    obtain ⟨d, r, rfl, rfl, hquestion⟩ := derivable_arguments ih r _ hafter
    obtain ⟨q, r, rfl, rfl, hrest⟩ := exists_question hquestion
    exact ⟨.type b ⟨name, hname⟩ d q, r, rfl, by simp [Derivation.chars], hrest⟩

/-- The texts that are read as a type are those with a derivation that stands for it. -/
theorem parse_eq_ok_iff_derivation {text : String} {t : TypeRef} :
    parse text = .ok t ↔ ∃ d : Derivation .text, d.chars = text.toList ∧ d.meaning = t := by
  rw [parse_eq_ok_iff]
  constructor
  · intro h
    obtain ⟨d, r, hd, hs, hr⟩ := derivable_type t text.toList [] (by simpa [Part.tokens] using h)
    obtain ⟨b, rfl⟩ := exists_of_scan_eq_nil hr
    exact ⟨.text d b, hs.symm, hd⟩
  · rintro ⟨d, hs, rfl⟩
    have hend : Breaks [] := nofun
    have h := d.scan_chars hend
    rw [List.append_nil, hs] at h
    simpa [Part.tokens] using h

end MatchCover.TypeRef
