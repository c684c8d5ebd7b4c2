import MatchCover.Json.Parser
import MatchCover.Proofs.Json.Scanning

/-!
# Reading what was written

The text of a value scans as the tokens of the value, whatever spaces are set between them, and
these are read back as the value. So every value that can be written at all can be written and read
without loss (`parse?_write`).
-/

namespace MatchCover.Json

open Token (Breaks isSpace scan)

/-- A value whose strings and numbers can stand in a text. -/
inductive Plain : Json → Prop where
  | null : Plain null
  | bool (value : Bool) : Plain (bool value)
  | number {lexeme : List Char} : IsLexeme lexeme → Plain (number lexeme)
  | string {text : List Piece} : (∀ p ∈ text, p.Plain) → Plain (string text)
  | array {items : List Json} : (∀ j ∈ items, Plain j) → Plain (array items)
  | object {members : List (List Piece × Json)} :
    (∀ m ∈ members, ∀ p ∈ m.1, p.Plain) → (∀ m ∈ members, Plain m.2) → Plain (object members)

/-! ## Values as tokens -/

mutual

def tokens : Json → List Token
  | null => [.null]
  | bool value => [.bool value]
  | number lexeme => [.number lexeme]
  | string text => [.string text]
  | array [] => [.mark .openBracket, .mark .closeBracket]
  | array (j :: items) => .mark .openBracket :: (tokens j ++ itemTokens items)
  | object [] => [.mark .openBrace, .mark .closeBrace]
  | object ((key, j) :: members) =>
    .mark .openBrace :: .string key :: .mark .colon :: (tokens j ++ memberTokens members)
termination_by structural j => j

/-- The tokens of the items after the first, up to the closing bracket. -/
def itemTokens : List Json → List Token
  | [] => [.mark .closeBracket]
  | j :: items => .mark .comma :: (tokens j ++ itemTokens items)
termination_by structural items => items

/-- The tokens of the members after the first, up to the closing brace. -/
def memberTokens : List (List Piece × Json) → List Token
  | [] => [.mark .closeBrace]
  | (key, j) :: members =>
    .mark .comma :: .string key :: .mark .colon :: (tokens j ++ memberTokens members)
termination_by structural members => members

end

/-! ## Scanning the text of a value -/

/-- Nothing but spaces is set between the tokens. -/
structure Spacing.Blank (sp : Spacing) : Prop where
  newline : ∀ level, ∀ c ∈ sp.newline level, isSpace c = true
  afterColon : ∀ c ∈ sp.afterColon, isSpace c = true

theorem Spacing.blank_pretty : Spacing.pretty.Blank := by
  refine ⟨fun level c hc => ?_, fun c hc => ?_⟩
  · rcases List.mem_cons.mp hc with rfl | hc
    · rfl
    · rw [List.eq_of_mem_replicate hc]
      rfl
  · rw [List.mem_singleton.mp hc]
    rfl

theorem Spacing.blank_compact : Spacing.compact.Blank := ⟨nofun, nofun⟩

variable {sp : Spacing} {level : Nat} {j : Json} {items : List Json}
  {members : List (List Piece × Json)} {key : List Piece} {gap rest : List Char} {ts : List Token}

theorem breaks_mark (m : Mark) : Breaks (m.char :: rest) := by
  rintro c ⟨⟩
  exact Token.isNumberChar_mark m

theorem breaks_gap (hgap : ∀ c ∈ gap, isSpace c = true) (h : Breaks rest) :
    Breaks (gap ++ rest) := by
  cases gap with
  | nil => exact h
  | cons c gap =>
    rintro d ⟨⟩
    rcases Token.isSpace_iff.mp (hgap c List.mem_cons_self) with rfl | rfl | rfl | rfl <;> decide

/-- A value in a text scans as its tokens, whatever follows that does not prolong it. -/
def Scans (sp : Spacing) (j : Json) : Prop :=
  ∀ level rest ts, Breaks rest → scan rest = some ts →
    scan (write sp level j ++ rest) = some (tokens j ++ ts)

theorem breaks_writeItems (h : Breaks rest) : Breaks (writeItems sp level items ++ rest) := by
  cases items with
  | nil => exact h
  | cons j items => exact breaks_mark .comma

theorem breaks_writeMembers (h : Breaks rest) :
    Breaks (writeMembers sp level members ++ rest) := by
  cases members with
  | nil => exact h
  | cons m members => exact breaks_mark .comma

theorem scan_writeItems (hsp : sp.Blank) (hitems : ∀ j ∈ items, Scans sp j)
    (hgap : ∀ c ∈ gap, isSpace c = true) (h : scan rest = some ts) :
    scan (writeItems sp level items ++ (gap ++ ']' :: rest)) = some (itemTokens items ++ ts) := by
  have hend : Breaks (gap ++ ']' :: rest) := breaks_gap hgap (breaks_mark .closeBracket)
  induction items with
  | nil =>
    rw [writeItems, List.nil_append, Token.scan_spaces hgap]
    exact Token.scan_mark .closeBracket h
  | cons j items ih =>
    obtain ⟨hj, hitems⟩ := List.forall_mem_cons.mp hitems
    simp only [writeItems, itemTokens, List.cons_append, List.append_assoc]
    refine Token.scan_mark .comma ?_
    rw [Token.scan_spaces (hsp.newline level)]
    exact hj level _ _ (breaks_writeItems hend) (ih hitems)

/-- A key with its colon and the value that follows. -/
theorem scan_member (hsp : sp.Blank) (hkey : ∀ p ∈ key, p.Plain) (hj : Scans sp j)
    (hrest : Breaks rest) (h : scan rest = some ts) :
    scan (stringChars key ++ ':' :: (sp.afterColon ++ (write sp level j ++ rest))) =
      some (.string key :: .mark .colon :: (tokens j ++ ts)) := by
  refine Token.scan_string hkey (Token.scan_mark .colon ?_)
  rw [Token.scan_spaces hsp.afterColon]
  exact hj level _ _ hrest h

theorem scan_writeMembers (hsp : sp.Blank) (hkeys : ∀ m ∈ members, ∀ p ∈ m.1, p.Plain)
    (hmembers : ∀ m ∈ members, Scans sp m.2) (hgap : ∀ c ∈ gap, isSpace c = true)
    (h : scan rest = some ts) :
    scan (writeMembers sp level members ++ (gap ++ '}' :: rest)) =
      some (memberTokens members ++ ts) := by
  have hend : Breaks (gap ++ '}' :: rest) := breaks_gap hgap (breaks_mark .closeBrace)
  induction members with
  | nil =>
    rw [writeMembers, List.nil_append, Token.scan_spaces hgap]
    exact Token.scan_mark .closeBrace h
  | cons m members ih =>
    obtain ⟨key, j⟩ := m
    obtain ⟨hkey, hkeys⟩ := List.forall_mem_cons.mp hkeys
    obtain ⟨hj, hmembers⟩ := List.forall_mem_cons.mp hmembers
    simp only [writeMembers, memberTokens, List.cons_append, List.append_assoc]
    refine Token.scan_mark .comma ?_
    rw [Token.scan_spaces (hsp.newline level)]
    exact scan_member hsp hkey hj (breaks_writeMembers hend) (ih hkeys hmembers)

theorem scans_of_plain (hsp : sp.Blank) (h : j.Plain) : Scans sp j := by
  induction h with
  | null => exact fun _ _ _ _ h => Token.scan_null h
  | bool value =>
    cases value with
    | true => exact fun _ _ _ _ h => Token.scan_true h
    | false => exact fun _ _ _ _ h => Token.scan_false h
  | number hlexeme => exact fun _ _ _ hrest h => Token.scan_number hlexeme hrest h
  | string htext => exact fun _ _ _ _ h => Token.scan_string htext h
  | @array items hitems ih =>
    intro level rest ts hrest h
    cases items with
    | nil => exact Token.scan_mark .openBracket (Token.scan_mark .closeBracket h)
    | cons j items =>
      obtain ⟨hj, hjs⟩ := List.forall_mem_cons.mp ih
      simp only [write, tokens, List.cons_append, List.append_assoc]
      refine Token.scan_mark .openBracket ?_
      rw [Token.scan_spaces (hsp.newline _)]
      refine hj _ _ _ (breaks_writeItems ?_) (scan_writeItems hsp hjs (hsp.newline _) h)
      exact breaks_gap (hsp.newline _) (breaks_mark .closeBracket)
  | @object members hkeys hvalues ih =>
    intro level rest ts hrest h
    cases members with
    | nil => exact Token.scan_mark .openBrace (Token.scan_mark .closeBrace h)
    | cons m members =>
      obtain ⟨key, j⟩ := m
      obtain ⟨hkey, hks⟩ := List.forall_mem_cons.mp hkeys
      obtain ⟨hj, hjs⟩ := List.forall_mem_cons.mp ih
      simp only [write, tokens, List.cons_append, List.append_assoc]
      refine Token.scan_mark .openBrace ?_
      rw [Token.scan_spaces (hsp.newline _)]
      refine scan_member hsp hkey hj (breaks_writeMembers ?_)
        (scan_writeMembers hsp hks hjs (hsp.newline _) h)
      exact breaks_gap (hsp.newline _) (breaks_mark .closeBrace)

/-! ## Reading the tokens of a value -/

section
variable {input more rest : List Token}

theorem head?_tokens (j : Json) (rest : List Token) :
    (tokens j ++ rest).head? ≠ some (.mark .closeBracket) := by
  cases j with
  | array items => cases items <;> simp [tokens]
  | object members => rcases members with _ | ⟨⟨key, j⟩, members⟩ <;> simp [tokens]
  | _ => simp [tokens]

theorem length_tokens_pos (j : Json) : 0 < (tokens j).length := by
  cases j with
  | array items => cases items <;> simp [tokens]
  | object members => rcases members with _ | ⟨⟨key, j⟩, members⟩ <;> simp [tokens]
  | _ => simp [tokens]

theorem readValue_array (hne : input.head? ≠ some (.mark .closeBracket))
    (h : (readItems input).map Read.pair = some (items, rest)) :
    (readValue (.mark .openBracket :: input)).map Read.pair = some (array items, rest) := by
  obtain ⟨hlt, h⟩ := Read.map_pair_eq_some_iff.mp h
  rw [readValue]
  · rw [h]
    rfl
  · rintro rest rfl
    exact hne rfl

theorem readValue_object (h : (readMembers (.string key :: input)).map Read.pair =
      some (members, rest)) :
    (readValue (.mark .openBrace :: .string key :: input)).map Read.pair =
      some (object members, rest) := by
  obtain ⟨hlt, h⟩ := Read.map_pair_eq_some_iff.mp h
  simp [readValue, h, Read.pair]

theorem readItems_last
    (h : (readValue input).map Read.pair = some (j, .mark .closeBracket :: rest)) :
    (readItems input).map Read.pair = some ([j], rest) := by
  obtain ⟨hlt, h⟩ := Read.map_pair_eq_some_iff.mp h
  rw [readItems, h]
  rfl

theorem readItems_comma
    (h : (readValue input).map Read.pair = some (j, .mark .comma :: more))
    (hmore : (readItems more).map Read.pair = some (items, rest)) :
    (readItems input).map Read.pair = some (j :: items, rest) := by
  obtain ⟨hlt, h⟩ := Read.map_pair_eq_some_iff.mp h
  obtain ⟨hlt', hmore⟩ := Read.map_pair_eq_some_iff.mp hmore
  rw [readItems, h]
  simp [hmore, Read.pair]

theorem readMembers_last
    (h : (readValue input).map Read.pair = some (j, .mark .closeBrace :: rest)) :
    (readMembers (.string key :: .mark .colon :: input)).map Read.pair =
      some ([(key, j)], rest) := by
  obtain ⟨hlt, h⟩ := Read.map_pair_eq_some_iff.mp h
  rw [readMembers, h]
  rfl

theorem readMembers_comma
    (h : (readValue input).map Read.pair = some (j, .mark .comma :: more))
    (hmore : (readMembers more).map Read.pair = some (members, rest)) :
    (readMembers (.string key :: .mark .colon :: input)).map Read.pair =
      some ((key, j) :: members, rest) := by
  obtain ⟨hlt, h⟩ := Read.map_pair_eq_some_iff.mp h
  obtain ⟨hlt', hmore⟩ := Read.map_pair_eq_some_iff.mp hmore
  rw [readMembers, h]
  simp [hmore, Read.pair]

end

/-- Reading the tokens of a value gives the value back and leaves what follows. -/
theorem read_tokens (n : Nat) :
    (∀ j rest, (tokens j).length ≤ n →
      (readValue (tokens j ++ rest)).map Read.pair = some (j, rest)) ∧
    (∀ j items rest, (tokens j ++ itemTokens items).length ≤ n →
      (readItems (tokens j ++ itemTokens items ++ rest)).map Read.pair =
        some (j :: items, rest)) ∧
    ∀ key j members rest, (tokens j ++ memberTokens members).length ≤ n →
      (readMembers (.string key :: .mark .colon ::
        (tokens j ++ memberTokens members ++ rest))).map Read.pair =
        some ((key, j) :: members, rest) := by
  induction n with
  | zero =>
    refine ⟨fun j rest h => ?_, fun j items rest h => ?_, fun key j members rest h => ?_⟩
    all_goals have hpos := length_tokens_pos j
    · omega
    · rw [List.length_append] at h
      omega
    · rw [List.length_append] at h
      omega
  | succ n ih =>
    obtain ⟨ihValue, ihItems, ihMembers⟩ := ih
    refine ⟨?_, ?_, ?_⟩
    · intro j rest hn
      cases j with
      | array items =>
        cases items with
        | nil => simp [tokens, readValue, Read.pair]
        | cons j items =>
          rw [tokens, List.length_cons] at hn
          rw [tokens, List.cons_append]
          refine readValue_array ?_ (ihItems j items rest (by omega))
          rw [List.append_assoc]
          exact head?_tokens j _
      | object members =>
        rcases members with _ | ⟨⟨key, j⟩, members⟩
        · simp [tokens, readValue, Read.pair]
        · simp only [tokens, List.length_cons] at hn
          simp only [tokens, List.cons_append]
          exact readValue_object (ihMembers key j members rest (by omega))
      | _ => simp [tokens, readValue, Read.pair]
    · intro j items rest hn
      rw [List.length_append] at hn
      rw [List.append_assoc]
      cases items with
      | nil =>
        rw [itemTokens, List.length_singleton] at hn
        exact readItems_last (ihValue j _ (by omega))
      | cons i items =>
        simp only [itemTokens, List.length_cons] at hn
        exact readItems_comma (ihValue j _ (by omega)) (ihItems i items rest (by omega))
    · intro key j members rest hn
      rw [List.length_append] at hn
      rw [List.append_assoc]
      rcases members with _ | ⟨⟨key', i⟩, members⟩
      · rw [memberTokens, List.length_singleton] at hn
        exact readMembers_last (ihValue j _ (by omega))
      · simp only [memberTokens, List.length_cons] at hn
        exact readMembers_comma (ihValue j _ (by omega)) (ihMembers key' i members rest (by omega))

theorem ofTokens?_tokens (j : Json) : ofTokens? (tokens j) = some j := by
  have hread := (read_tokens _).1 j [] le_rfl
  rw [List.append_nil] at hread
  obtain ⟨hlt, hread⟩ := Read.map_pair_eq_some_iff.mp hread
  simp [ofTokens?, hread]

/-- A value is read back from its text, which spaces may follow. -/
theorem parse?_write (hsp : sp.Blank) (h : j.Plain) (gap : List Char)
    (hgap : ∀ c ∈ gap, isSpace c = true) :
    parse? (String.ofList (write sp 0 j ++ gap)) = some j := by
  have hend : scan gap = some [] := by
    rw [← List.append_nil gap, Token.scan_spaces hgap, Token.scan_nil]
  have hbreaks : Breaks gap := by
    rw [← List.append_nil gap]
    exact breaks_gap hgap nofun
  have hscan := scans_of_plain hsp h 0 gap [] hbreaks hend
  rw [List.append_nil] at hscan
  rw [parse?, String.toList_ofList, hscan, Option.bind_some, ofTokens?_tokens]

theorem parse?_compact (h : j.Plain) : parse? (compact j) = some j := by
  have hparse := parse?_write Spacing.blank_compact h [] nofun
  rwa [List.append_nil] at hparse

theorem parse?_pretty (h : j.Plain) : parse? (pretty j) = some j := by
  have hparse := parse?_write Spacing.blank_pretty h [] nofun
  rwa [List.append_nil] at hparse

end MatchCover.Json
