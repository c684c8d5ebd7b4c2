import MatchCover.Proofs.TypeRef.Grammar

/-!
# One derivation for each text

A derivation can be told from its text: blanks and names are runs that go as far as they can, and
the mark that comes next decides between the forms of a part (`Derivation.unique`). So what a text
stands for does not depend on how it is taken apart. The calls of the readers come to an end on any
row of tokens (`ends_readers`), which is why no others obey the same recursion
(`step_eq_iff_eq_readers`).
-/

namespace MatchCover.TypeRef

open Token (Breaks scan)

variable {r r' : List Char} {m m' : Mark} {b b' : Blanks} {p : Part}

/-! ## Blanks, marks and names -/

/-- A run that goes as far as it can is known from the text. -/
theorem run_unique {f : Char → Bool} {l l' : List Char} (hl : ∀ c ∈ l, f c = true)
    (hl' : ∀ c ∈ l', f c = true) (hr : ∀ c ∈ r.head?, f c = false)
    (hr' : ∀ c ∈ r'.head?, f c = false) (h : l ++ r = l' ++ r') : l = l' ∧ r = r' := by
  have hrun {l r : List Char} (hl : ∀ c ∈ l, f c = true) (hr : ∀ c ∈ r.head?, f c = false) :
      (l ++ r).takeWhile f = l := by
    rw [List.takeWhile_append_of_pos hl]
    cases r with
    | nil => simp
    | cons c r => simp [hr c rfl]
  have heq : l = l' := by rw [← hrun hl hr, h, hrun hl' hr']
  subst heq
  exact ⟨rfl, List.append_cancel_left h⟩

theorem blanks_unique (hr : ∀ c ∈ r.head?, Text.isBlank c = false)
    (hr' : ∀ c ∈ r'.head?, Text.isBlank c = false) (h : b.val ++ r = b'.val ++ r') :
    b = b' ∧ r = r' := by
  obtain ⟨hb, hrest⟩ := run_unique b.property b'.property hr hr' h
  exact ⟨Subtype.ext hb, hrest⟩

theorem name_unique {name name' : { n : String // IsName n }} (hr : Breaks r) (hr' : Breaks r')
    (h : name.val.toList ++ r = name'.val.toList ++ r') : name = name' ∧ r = r' := by
  obtain ⟨hname, hrest⟩ := run_unique (isName_iff.mp name.property).2
    (isName_iff.mp name'.property).2 hr hr' h
  exact ⟨Subtype.ext (String.toList_inj.mp hname), hrest⟩

theorem head?_name (name : { n : String // IsName n }) (r : List Char) :
    ∀ c ∈ (name.val.toList ++ r).head?, Text.isBlank c = false := by
  obtain ⟨hne, hword⟩ := isName_iff.mp name.property
  obtain ⟨c, word, hname⟩ := List.exists_cons_of_ne_nil hne
  rw [hname]
  rintro _ ⟨⟩
  exact (Token.isNameChar_eq_true_iff.mp (hword c (by simp [hname]))).1

theorem marked_unique (h : marked b m ++ r = marked b' m' ++ r') : b = b' ∧ m = m' ∧ r = r' := by
  have hmark (m : Mark) (r : List Char) : ∀ c ∈ (m.char :: r).head?, Text.isBlank c = false := by
    rintro c ⟨⟩
    exact Token.isBlank_char m
  simp only [marked, List.append_assoc, List.singleton_append] at h
  obtain ⟨hb, hrest⟩ := blanks_unique (hmark m r) (hmark m' r') h
  obtain ⟨hchar, hr⟩ := List.cons.inj hrest
  have hm : some m' = some m := by
    rw [← Mark.ofChar?_eq_some.mpr rfl, ← hchar, Mark.ofChar?_eq_some.mpr rfl]
  exact ⟨hb, (Option.some.inj hm).symm, hr⟩

/-- The mark stands first in the text, but for blanks. -/
def StartsWith (m : Mark) (s : List Char) : Prop := ∃ b r, s = marked b m ++ r

theorem startsWith_marked : StartsWith m (marked b m' ++ r) ↔ m = m' := by
  constructor
  · rintro ⟨b', r', h⟩
    exact (marked_unique h).2.1.symm
  · rintro rfl
    exact ⟨b, r, rfl⟩

theorem not_startsWith_blanks (m : Mark) (b : Blanks) : ¬ StartsWith m b.val := by
  rintro ⟨b', r, h⟩
  have hscan := scan_blank_text b
  rw [h, scan_marked] at hscan
  cases hscan

/-! ## Derivations -/

/-- What follows a part does not prolong it. -/
def Part.Ends : Part → List Char → Prop
  | text, r => r = []
  | type, r => Breaks r ∧ ¬ StartsWith .opening r ∧ ¬ StartsWith .question r
  | arguments, r => ¬ StartsWith .opening r
  | more, _ => True

theorem question_unique {q q' : Option Blanks} (hr : ¬ StartsWith .question r)
    (hr' : ¬ StartsWith .question r') (h : questionChars q ++ r = questionChars q' ++ r') :
    q = q' ∧ r = r' := by
  cases q with
  | none =>
    cases q' with
    | none => exact ⟨rfl, h⟩
    | some b' => exact absurd ⟨b', r', h⟩ hr
  | some b =>
    cases q' with
    | none => exact absurd ⟨b, r, h.symm⟩ hr'
    | some b' =>
      obtain ⟨rfl, -, hrest⟩ := marked_unique h
      exact ⟨rfl, hrest⟩

theorem ends_question (q : Option Blanks) (h : ¬ StartsWith .opening r) :
    Part.arguments.Ends (questionChars q ++ r) := by
  cases q with
  | none => exact h
  | some b => exact fun hopening => nomatch startsWith_marked.mp hopening

namespace Derivation

theorem ends_more (more : Derivation .more) (r : List Char) : Part.type.Ends (more.chars ++ r) := by
  refine ⟨breaks_more more r, ?_, ?_⟩ <;> intro h <;> cases more with
  | comma before next more =>
    rw [chars, List.append_assoc] at h
    cases startsWith_marked.mp h
  | closing before => cases startsWith_marked.mp h

theorem unique {d d' : Derivation p} (h : d.chars ++ r = d'.chars ++ r') (hr : p.Ends r)
    (hr' : p.Ends r') : d = d' ∧ r = r' := by
  induction d generalizing r r' with
  | text t after ih =>
    cases d' with
    | text t' after' =>
      cases hr
      cases hr'
      have hends (b : Blanks) : Part.type.Ends b.val := by
        refine ⟨?_, not_startsWith_blanks _ b, not_startsWith_blanks _ b⟩
        simpa using breaks_blanks b (r := []) nofun
      simp only [chars, List.append_nil] at h
      obtain ⟨rfl, hafter⟩ := ih h (hends after) (hends after')
      exact ⟨congrArg (text t) (Subtype.ext hafter), rfl⟩
  | type before name args question ih =>
    cases d' with
    | type before' name' args' question' =>
      obtain ⟨hbreaks, hopening, hquestion⟩ := hr
      obtain ⟨hbreaks', hopening', hquestion'⟩ := hr'
      simp only [chars, List.append_assoc] at h
      obtain ⟨rfl, hname⟩ := blanks_unique (head?_name name _) (head?_name name' _) h
      obtain ⟨rfl, hargs⟩ := name_unique (breaks_afterName args question hbreaks)
        (breaks_afterName args' question' hbreaks') hname
      obtain ⟨rfl, hmark⟩ := ih hargs (ends_question question hopening)
        (ends_question question' hopening')
      obtain ⟨rfl, hrest⟩ := question_unique hquestion hquestion' hmark
      exact ⟨rfl, hrest⟩
  | noArguments =>
    cases d' with
    | noArguments => exact ⟨rfl, h⟩
    | arguments before' first' more' =>
      rw [chars, chars, List.append_assoc] at h
      exact absurd ⟨before', _, h⟩ hr
  | arguments before first more ihFirst ihMore =>
    cases d' with
    | noArguments =>
      rw [chars, chars, List.append_assoc] at h
      exact absurd ⟨before, _, h.symm⟩ hr'
    | arguments before' first' more' =>
      simp only [chars, List.append_assoc] at h
      obtain ⟨rfl, -, hfirst⟩ := marked_unique h
      obtain ⟨rfl, hmore⟩ := ihFirst hfirst (ends_more more r) (ends_more more' r')
      obtain ⟨rfl, hrest⟩ := ihMore hmore trivial trivial
      exact ⟨rfl, hrest⟩
  | comma before next more ihNext ihMore =>
    cases d' with
    | comma before' next' more' =>
      simp only [chars, List.append_assoc] at h
      obtain ⟨rfl, -, hnext⟩ := marked_unique h
      obtain ⟨rfl, hmore⟩ := ihNext hnext (ends_more more r) (ends_more more' r')
      obtain ⟨rfl, hrest⟩ := ihMore hmore trivial trivial
      exact ⟨rfl, hrest⟩
    | closing before' =>
      rw [chars, chars, List.append_assoc] at h
      cases (marked_unique h).2.1
  | closing before =>
    cases d' with
    | comma before' next' more' =>
      rw [chars, chars, List.append_assoc] at h
      cases (marked_unique h).2.1
    | closing before' =>
      obtain ⟨rfl, -, h⟩ := marked_unique h
      exact ⟨rfl, h⟩

end Derivation

/-! ## The recursion of the readers -/

/-- What the readers are asked for: a type, or arguments. -/
inductive Call where
  | type (tokens : List Token)
  | args (tokens : List Token)

namespace Readers

variable {r r' : Readers} {c : Call}

/-- A step of the readers asks for another. -/
inductive Calls (r : Readers) : Call → Call → Prop where
  | opening {name : List Char} {tokens : List Token} :
    Calls r (.type (.name name :: .mark .opening :: tokens)) (.args tokens)
  | first {tokens : List Token} : Calls r (.args tokens) (.type tokens)
  | comma {t : TypeRef} {tokens rest : List Token} :
    r.type tokens = .ok (t, .mark .comma :: rest) → Calls r (.args tokens) (.args rest)

/-- The recursion on a call comes to an end. -/
def Ends (r : Readers) (c : Call) : Prop := Acc (fun d c => r.Calls c d) c

/-- Two pairs of readers give the same for a call. -/
def Agree (r r' : Readers) : Call → Prop
  | .type tokens => r.type tokens = r'.type tokens
  | .args tokens => r.args tokens = r'.args tokens

/-- A step looks only at what is called. -/
theorem step_congr (h : ∀ d, r.Calls c d → r.Agree r' d) : r.step.Agree r'.step c := by
  cases c with
  | type tokens =>
    change r.typeStep tokens = r'.typeStep tokens
    unfold typeStep
    split
    · rw [show r.args _ = r'.args _ from h _ .opening]
    · rfl
    · rfl
  | args tokens =>
    change r.argsStep tokens = r'.argsStep tokens
    have htype : r.type tokens = r'.type tokens := h _ .first
    unfold argsStep
    rw [← htype]
    cases hread : r.type tokens with
    | error e => rfl
    | ok x =>
      obtain ⟨t, rest⟩ := x
      dsimp only [bind, Except.bind]
      split
      · rw [show r.args _ = r'.args _ from h _ (.comma hread)]
      · rfl
      · rfl

end Readers

/-- What a call takes: the first argument comes before all that is asked for after it. -/
def Call.size : Call → Nat
  | type tokens => 2 * tokens.length
  | args tokens => 2 * tokens.length + 1

theorem size_lt_of_calls {c d : Call} (h : readers.Calls c d) : d.size < c.size := by
  cases h with
  | opening =>
    simp only [Call.size, List.length_cons]
    omega
  | first => exact Nat.lt_succ_self _
  | comma hread =>
    have hlength := congrArg List.length ((tokens_of_read _).1 _ _ hread)
    simp only [List.length_append, List.length_cons] at hlength
    simp only [Call.size]
    omega

theorem ends_readers (c : Call) : readers.Ends c :=
  Subrelation.accessible size_lt_of_calls ((measure Call.size).wf.apply c)

/-- No other readers obey the recursion. -/
theorem step_eq_iff_eq_readers {r : Readers} : r.step = r ↔ r = readers := by
  constructor
  · intro hr
    have hagree (c : Call) : readers.Agree r c := by
      induction ends_readers c with
      | intro c _ ih =>
        have hstep := Readers.step_congr ih
        rwa [step_readers, hr] at hstep
    obtain ⟨type, args⟩ := r
    have htype : readers.type = type := funext fun tokens => hagree (.type tokens)
    have hargs : readers.args = args := funext fun tokens => hagree (.args tokens)
    rw [← htype, ← hargs]
  · rintro rfl
    exact step_readers

/-- Exactly the texts that have a derivation are read as a type, namely as the one that the
derivation stands for, and a text has one derivation at most. All other texts are refused with an
error that holds the whole text. On every text the recursion of the readers comes to an end, and
what they give is the only thing that obeys it. -/
theorem parse_accepts_grammar (s : String) :
    (∀ t, parse s = .ok t ↔ ∃ d : Derivation .text, d.chars = s.toList ∧ d.meaning = t) ∧
    (∀ d d' : Derivation .text, d.chars = s.toList → d'.chars = s.toList → d = d') ∧
    ((∃ fault, parse s = .error ⟨s, fault⟩) ↔ ∀ d : Derivation .text, d.chars ≠ s.toList) ∧
    readers.Ends (.type (scan s.toList)) ∧ ∀ r : Readers, r.step = r ↔ r = readers := by
  refine ⟨fun t => parse_eq_ok_iff_derivation, fun d d' h h' => ?_, ?_, ends_readers _,
    fun r => step_eq_iff_eq_readers⟩
  · have hchars : d.chars ++ [] = d'.chars ++ [] := by rw [h, h']
    exact (Derivation.unique hchars rfl rfl).1
  · constructor
    · rintro ⟨fault, herror⟩ d hd
      rw [parse_eq_ok_iff_derivation.mpr ⟨d, hd, rfl⟩] at herror
      cases herror
    · intro hnone
      cases hread : ofTokens (scan s.toList) with
      | error fault => exact ⟨fault, by rw [parse, hread, Except.mapError]⟩
      | ok t =>
        have hok : parse s = .ok t := by rw [parse, hread, Except.mapError]
        obtain ⟨d, hd, -⟩ := parse_eq_ok_iff_derivation.mp hok
        exact absurd hd (hnone d)

/-- A text with blanks in all places that can have them, one with a comma too many and one with a
mark too many. -/
theorem parse_accepts_grammar_of_blanks :
    (∃ d : Derivation .text, d.chars = " A < B ? , C > ? ".toList ∧
      d.meaning = (⟨"A", [⟨"B", [], true⟩, .named "C"], true⟩ : TypeRef)) ∧
    (∀ d : Derivation .text, d.chars ≠ "A<B,>".toList) ∧
    ∀ d : Derivation .text, d.chars ≠ "A??".toList := by
  have hread : parse " A < B ? , C > ? " = .ok ⟨"A", [⟨"B", [], true⟩, .named "C"], true⟩ := by
    decide +kernel
  have hcomma : parse "A<B,>" = .error ⟨"A<B,>", .missingName⟩ := by decide +kernel
  have hmark : parse "A??" = .error ⟨"A??", .trailingInput⟩ := by decide +kernel
  exact ⟨((parse_accepts_grammar _).1 _).mp hread,
    (parse_accepts_grammar _).2.2.1.mp ⟨_, hcomma⟩, (parse_accepts_grammar _).2.2.1.mp ⟨_, hmark⟩⟩

end MatchCover.TypeRef
