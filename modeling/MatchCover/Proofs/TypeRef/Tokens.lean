import MatchCover.Proofs.Except
import MatchCover.Proofs.TypeRef.Structure
import MatchCover.TypeRef.Notation

/-!
# Tokens of types

`tokens` writes a type as tokens. The reader accepts a row of tokens exactly if it is that of a
type (`ofTokens_eq_ok_iff`). `Token.scan` takes a text apart at marks and blanks; it loses nothing
but the blanks (`Token.flatMap_lexeme_scan`). Of the readers nothing is used but their equations
(`step_readers`).
-/

namespace MatchCover.TypeRef

/-! ## Scanning -/

namespace Token

variable {c : Char} {s word rest : List Char} {tokens : List Token}

/-- A name that stands in a text ends before the rest of the text. -/
def Breaks (rest : List Char) : Prop := ∀ c ∈ rest.head?, isNameChar c = false

theorem isNameChar_eq_true_iff :
    isNameChar c = true ↔ Text.isBlank c = false ∧ Mark.ofChar? c = none := by
  simp [isNameChar]

theorem isBlank_char (m : Mark) : Text.isBlank m.char = false := by
  cases m <;> rfl

theorem split_nameChar (h : isNameChar c = true) :
    split (c :: s) = (c :: (split s).1, (split s).2) := by
  obtain ⟨hblank, hmark⟩ := isNameChar_eq_true_iff.mp h
  simp [split, hblank, hmark]

theorem split_mark (m : Mark) : split (m.char :: s) = ([], mark m :: scan s) := by
  have hm : Mark.ofChar? m.char = some m := Mark.ofChar?_eq_some.mpr rfl
  simp [split, hm, scan]

theorem split_blank (h : Text.isBlank c = true) : split (c :: s) = ([], scan s) := by
  have hm : Mark.ofChar? c = none := by
    rw [Option.eq_none_iff_forall_ne_some]
    intro m hc
    rw [Mark.ofChar?_eq_some.mp hc, isBlank_char] at h
    cases h
  simp [split, hm, h, scan]

@[simp] theorem scan_nil : scan [] = [] := rfl

@[simp] theorem scan_mark (m : Mark) : scan (m.char :: s) = mark m :: scan s := by
  rw [scan, split_mark]
  rfl

theorem scan_blank (h : Text.isBlank c = true) : scan (c :: s) = scan s := by
  rw [scan, split_blank h]
  rfl

/-- Every character belongs to a name, is a mark or is blank. -/
theorem char_cases (c : Char) :
    isNameChar c = true ∨ (∃ m, c = Mark.char m) ∨ Text.isBlank c = true := by
  rw [isNameChar_eq_true_iff]
  cases hb : Text.isBlank c with
  | true => exact .inr (.inr rfl)
  | false =>
    cases hm : Mark.ofChar? c with
    | none => exact .inl ⟨rfl, rfl⟩
    | some m => exact .inr (.inl ⟨m, Mark.ofChar?_eq_some.mp hm⟩)

theorem fst_split_of_breaks (h : Breaks rest) : (split rest).1 = [] := by
  cases rest with
  | nil => rfl
  | cons c s =>
    rcases char_cases c with hc | ⟨m, rfl⟩ | hc
    · rw [h c rfl] at hc
      cases hc
    · rw [split_mark]
    · rw [split_blank hc]

theorem split_word (hword : ∀ c ∈ word, isNameChar c = true) (hrest : Breaks rest) :
    split (word ++ rest) = (word, scan rest) := by
  induction word with
  | nil =>
    have h := fst_split_of_breaks hrest
    simp [scan, close, h, Prod.ext_iff]
  | cons c word ih =>
    obtain ⟨hc, hword⟩ := List.forall_mem_cons.mp hword
    rw [List.cons_append, split_nameChar hc, ih hword]

theorem scan_word (hne : word ≠ []) (hword : ∀ c ∈ word, isNameChar c = true)
    (hrest : Breaks rest) : scan (word ++ rest) = name word :: scan rest := by
  rw [scan, split_word hword hrest, close, if_neg (by simp [hne])]

/-- The names among the tokens are not empty and consist of name characters. -/
def Proper (tokens : List Token) : Prop :=
  ∀ word, name word ∈ tokens → word ≠ [] ∧ ∀ c ∈ word, isNameChar c = true

theorem proper_close (hword : ∀ c ∈ word, isNameChar c = true) (h : Proper tokens) :
    Proper (close word tokens) := by
  unfold close
  split
  · exact h
  · next hne =>
    intro w hw
    rcases List.mem_cons.mp hw with hw | hw
    · cases hw
      exact ⟨by simpa using hne, hword⟩
    · exact h w hw

theorem proper_split (s : List Char) :
    (∀ c ∈ (split s).1, isNameChar c = true) ∧ Proper (split s).2 := by
  induction s with
  | nil => exact ⟨nofun, nofun⟩
  | cons c s ih =>
    have hscan : Proper (scan s) := proper_close ih.1 ih.2
    rcases char_cases c with hc | ⟨m, rfl⟩ | hc
    · rw [split_nameChar hc]
      exact ⟨List.forall_mem_cons.mpr ⟨hc, ih.1⟩, ih.2⟩
    · rw [split_mark]
      refine ⟨nofun, fun w hw => hscan w ?_⟩
      simpa using hw
    · rw [split_blank hc]
      exact ⟨nofun, hscan⟩

theorem proper_scan (s : List Char) : Proper (scan s) :=
  proper_close (proper_split s).1 (proper_split s).2

theorem flatMap_lexeme_close :
    (close word tokens).flatMap lexeme = word ++ tokens.flatMap lexeme := by
  unfold close
  split
  · next h => simp_all
  · rfl

theorem flatMap_lexeme_split (s : List Char) :
    (split s).1 ++ (split s).2.flatMap lexeme = s.filter (!Text.isBlank ·) := by
  induction s with
  | nil => rfl
  | cons c s ih =>
    have hscan : (scan s).flatMap lexeme = s.filter (!Text.isBlank ·) := by
      rw [scan, flatMap_lexeme_close, ih]
    rcases char_cases c with hc | ⟨m, rfl⟩ | hc
    · have hblank := (isNameChar_eq_true_iff.mp hc).1
      rw [split_nameChar hc, List.filter_cons_of_pos (by simp [hblank]), ← ih]
      rfl
    · rw [split_mark, List.filter_cons_of_pos (by simp [isBlank_char]), ← hscan]
      rfl
    · rw [split_blank hc, List.filter_cons_of_neg (by simp [hc]), ← hscan]
      rfl

/-- The tokens of a text hold all of its characters but the blanks. -/
theorem flatMap_lexeme_scan (s : List Char) :
    (scan s).flatMap lexeme = s.filter (!Text.isBlank ·) := by
  rw [scan, flatMap_lexeme_close, flatMap_lexeme_split]

end Token

/-! ## The equations of the readers -/

/-- Readers of types and of arguments. They give what they read and the tokens that are left. -/
structure Readers where
  type : List Token → Except Fault (TypeRef × List Token)
  args : List Token → Except Fault (List TypeRef × List Token)

namespace Readers

variable (r : Readers)

/-- Reads a type, where `r` reads the arguments. -/
def typeStep : List Token → Except Fault (TypeRef × List Token)
  | .name name :: .mark .opening :: tokens => do
    let (args, rest) ← r.args tokens
    return readNullable name args rest
  | .name name :: tokens => return readNullable name [] tokens
  | _ => throw .missingName

/-- Reads the first argument and what follows it by `r`. -/
def argsStep (tokens : List Token) : Except Fault (List TypeRef × List Token) := do
  let (arg, rest) ← r.type tokens
  match rest with
  | .mark .comma :: rest =>
    let (more, rest) ← r.args rest
    return (arg :: more, rest)
  | .mark .closing :: rest => return ([arg], rest)
  | _ => throw .unclosedArguments

def step : Readers := ⟨r.typeStep, r.argsStep⟩

end Readers

def readers : Readers where
  type tokens := (readType tokens).map Read.pair
  args tokens := (readArgs tokens).map Read.pair

theorem typeStep_readers (tokens : List Token) :
    readers.typeStep tokens = readers.type tokens := by
  simp only [readers, Readers.typeStep]
  split
  · rw [readType]
    cases readArgs _ <;> rfl
  · next hopening =>
    rw [readType]
    · rfl
    · exact hopening
  · next hopening hname =>
    rw [readType]
    · rfl
    · exact hopening
    · exact hname

theorem argsStep_readers (tokens : List Token) :
    readers.argsStep tokens = readers.args tokens := by
  simp only [readers, Readers.argsStep]
  rw [readArgs]
  cases readType tokens with
  | error e => rfl
  | ok t =>
    rcases t with ⟨t, _ | ⟨_ | m, rest⟩, h⟩
    · rfl
    · rfl
    · cases m with
      | comma =>
        dsimp only [Except.map, Read.pair, bind, Except.bind]
        cases readArgs rest <;> rfl
      | closing | opening | question => rfl

theorem step_readers : readers.step = readers := by
  rw [Readers.step, funext typeStep_readers, funext argsStep_readers]

/-! ## Types as tokens -/

mutual

def tokens : TypeRef → List Token
  | ⟨name, args, nullable⟩ =>
    .name name.toList :: (argTokens args ++ if nullable then [.mark .question] else [])
termination_by structural t => t

/-- The tokens of an argument list, none for an empty one. -/
def argTokens : List TypeRef → List Token
  | [] => []
  | t :: ts => .mark .opening :: (tokens t ++ moreTokens ts)
termination_by structural ts => ts

/-- The tokens of the arguments after the first, up to the closing bracket. -/
def moreTokens : List TypeRef → List Token
  | [] => [.mark .closing]
  | t :: ts => .mark .comma :: (tokens t ++ moreTokens ts)
termination_by structural ts => ts

end

/-- No token that could continue a type stands in front. -/
def Ends (rest : List Token) : Prop :=
  rest.head? ≠ some (.mark .opening) ∧ rest.head? ≠ some (.mark .question)

theorem ends_moreTokens (ts : List TypeRef) (rest : List Token) : Ends (moreTokens ts ++ rest) := by
  cases ts <;> simp [Ends, moreTokens]

variable {name : String} {args ts : List TypeRef} {t : TypeRef}
  {input rest : List Token} {nullable : Bool}

theorem readNullable_of_question :
    readNullable name.toList args (.mark .question :: rest) = (⟨name, args, true⟩, rest) := by
  simp [readNullable]

theorem readNullable_of_ends (h : Ends rest) :
    readNullable name.toList args rest = (⟨name, args, false⟩, rest) := by
  unfold readNullable
  split
  · exact absurd rfl h.2
  · simp

theorem readNullable_append (h : Ends rest) :
    readNullable name.toList args ((if nullable then [.mark .question] else []) ++ rest) =
      (⟨name, args, nullable⟩, rest) := by
  cases nullable with
  | true => exact readNullable_of_question
  | false => exact readNullable_of_ends h

theorem type_name {word : List Char} (h : input.head? ≠ some (.mark .opening)) :
    readers.type (.name word :: input) = .ok (readNullable word [] input) := by
  rw [← typeStep_readers]
  cases input with
  | nil => rfl
  | cons x input =>
    cases x with
    | name w => rfl
    | mark m => cases m <;> first | rfl | exact absurd rfl h

theorem type_opening {word : List Char} (h : readers.args input = .ok (args, rest)) :
    readers.type (.name word :: .mark .opening :: input) = .ok (readNullable word args rest) := by
  rw [← typeStep_readers]
  simp [Readers.typeStep, h, bind, Except.bind]

theorem args_closing (h : readers.type input = .ok (t, .mark .closing :: rest)) :
    readers.args input = .ok ([t], rest) := by
  rw [← argsStep_readers]
  simp [Readers.argsStep, h, bind, Except.bind]

theorem args_comma {more : List Token} (h : readers.type input = .ok (t, .mark .comma :: more))
    (hmore : readers.args more = .ok (ts, rest)) : readers.args input = .ok (t :: ts, rest) := by
  rw [← argsStep_readers]
  simp [Readers.argsStep, h, hmore, bind, Except.bind]

theorem args_tokens
    (h : ∀ a ∈ t :: ts, ∀ rest, Ends rest → readers.type (a.tokens ++ rest) = .ok (a, rest)) :
    readers.args (t.tokens ++ moreTokens ts ++ rest) = .ok (t :: ts, rest) := by
  induction ts generalizing t with
  | nil =>
    rw [List.append_assoc]
    exact args_closing (h t List.mem_cons_self _ (ends_moreTokens [] rest))
  | cons u us ih =>
    rw [List.append_assoc]
    refine args_comma (h t List.mem_cons_self _ (ends_moreTokens (u :: us) rest)) ?_
    exact ih fun a ha => h a (List.mem_cons_of_mem _ ha)

/-- Reading the tokens of a type gives the type back and leaves what follows. -/
theorem type_tokens (t : TypeRef) :
    ∀ rest, Ends rest → readers.type (t.tokens ++ rest) = .ok (t, rest) := by
  induction t using argsInduction with
  | mk name args nullable ih =>
    intro rest hrest
    rw [tokens, List.cons_append, List.append_assoc]
    cases args with
    | nil =>
      rw [argTokens, List.nil_append, type_name, readNullable_append hrest]
      cases nullable with
      | true => simp
      | false => exact hrest.1
    | cons t ts =>
      rw [argTokens, List.cons_append, type_opening (args_tokens ih), readNullable_append hrest]

theorem readNullable_eq {word : List Char} (h : readNullable word args input = (t, rest)) :
    ∃ nullable, t = ⟨String.ofList word, args, nullable⟩ ∧
      input = (if nullable then [.mark .question] else []) ++ rest := by
  unfold readNullable at h
  split at h
  · cases h
    exact ⟨true, rfl, rfl⟩
  · cases h
    exact ⟨false, rfl, rfl⟩

/-- Whatever is read, its tokens were there. -/
theorem tokens_of_read (input : List Token) :
    (∀ t rest, readers.type input = .ok (t, rest) → input = t.tokens ++ rest) ∧
    ∀ args rest, readers.args input = .ok (args, rest) →
      ∃ t ts, args = t :: ts ∧ input = t.tokens ++ moreTokens ts ++ rest := by
  induction hlength : input.length using Nat.strongRecOn generalizing input with
  | ind n ih =>
    subst hlength
    have htype : ∀ t rest, readers.type input = .ok (t, rest) → input = t.tokens ++ rest := by
      intro t rest h
      rw [← typeStep_readers] at h
      unfold Readers.typeStep at h
      split at h
      · obtain ⟨⟨args, more⟩, hargs, hmark⟩ := bind_eq_ok.mp h
        obtain ⟨b, rfl, rfl⟩ := readNullable_eq (Except.ok.inj hmark)
        obtain ⟨u, us, rfl, rfl⟩ := (ih _ (by simp only [List.length_cons]; omega) _ rfl).2 _ _ hargs
        simp [tokens, argTokens]
      · obtain ⟨b, rfl, rfl⟩ := readNullable_eq (Except.ok.inj h)
        simp [tokens, argTokens]
      · cases h
    refine ⟨htype, fun args rest h => ?_⟩
    rw [← argsStep_readers] at h
    obtain ⟨⟨t, more⟩, ht, hmore⟩ := bind_eq_ok.mp h
    obtain rfl := htype t more ht
    dsimp only at hmore
    split at hmore
    · obtain ⟨⟨ts, rest'⟩, hts, hargs⟩ := bind_eq_ok.mp hmore
      cases hargs
      obtain ⟨u, us, rfl, rfl⟩ := (ih _ (by simp; omega) _ rfl).2 _ _ hts
      exact ⟨t, u :: us, rfl, by simp [moreTokens]⟩
    · cases hmore
      exact ⟨t, [], rfl, by simp [moreTokens]⟩
    · cases hmore

theorem ofTokens_eq (input : List Token) :
    ofTokens input = readers.type input >>= fun (t, rest) =>
      if rest.isEmpty then return t else throw .trailingInput := by
  simp only [ofTokens, readers]
  cases readType input <;> rfl

/-- A row of tokens is read as a type exactly if it is the row of that type. -/
theorem ofTokens_eq_ok_iff : ofTokens input = .ok t ↔ input = t.tokens := by
  rw [ofTokens_eq]
  constructor
  · intro h
    obtain ⟨⟨u, rest⟩, hread, h⟩ := bind_eq_ok.mp h
    rw [(tokens_of_read _).1 _ _ hread]
    cases rest with
    | nil =>
      cases h
      exact List.append_nil _
    | cons x rest => cases h
  · rintro rfl
    have hread := type_tokens t [] (by simp [Ends])
    rw [List.append_nil] at hread
    simp [hread, bind, Except.bind]

theorem parse_eq_ok_iff {s : String} : parse s = .ok t ↔ Token.scan s.toList = t.tokens := by
  rw [← ofTokens_eq_ok_iff, parse]
  cases ofTokens (Token.scan s.toList) <;> simp [Except.mapError]

end MatchCover.TypeRef
