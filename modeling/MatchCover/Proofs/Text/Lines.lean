import MatchCover.Proofs.Text.Deletion
import MatchCover.Text.Quoted

/-!
# Texts of lines

A text that is put together from parts stays on one line exactly if each part does. Numbers and
quoted texts always do, the latter because a line feed is escaped in them. Among the texts of so
many lines, each ended by a line feed, the number of line feeds tells whether one of them is broken
(`ConsistsOf.of_length_eq`).
-/

namespace MatchCover.Text

/-- The text holds no line feed. -/
def OneLine (s : String) : Prop := '\n' ∉ s.toList

instance : DecidablePred OneLine := fun s => inferInstanceAs (Decidable ('\n' ∉ s.toList))

variable {s t separator text : String} {parts lines lines' : List String}

theorem oneLine_ofList {s : List Char} : OneLine (String.ofList s) ↔ '\n' ∉ s := by
  rw [OneLine, String.toList_ofList]

@[simp] theorem oneLine_append : OneLine (s ++ t) ↔ OneLine s ∧ OneLine t := by
  rw [OneLine, String.toList_append, List.mem_append, not_or]
  rfl

theorem oneLine_intercalate (h : OneLine separator) :
    OneLine (separator.intercalate parts) ↔ ∀ part ∈ parts, OneLine part := by
  rw [OneLine, String.toList_intercalate]
  constructor
  · intro hmem part hpart hc
    exact hmem ((infix_intercalate_of_mem (List.mem_map_of_mem hpart)).subset hc)
  · intro hparts hmem
    rcases mem_or_mem_of_mem_intercalate hmem with hc | hc
    · exact h hc
    · obtain ⟨_, hchars, hc⟩ := List.mem_flatten.mp hc
      obtain ⟨part, hpart, rfl⟩ := List.mem_map.mp hchars
      exact hparts part hpart hc

/-! ## Numbers and quoted texts -/

theorem newline_notMem_toDigits {base : Nat} (hbase : 1 < base) (n : Nat) :
    '\n' ∉ Nat.toDigits base n := by
  induction n using Nat.strongRecOn with
  | ind n ih =>
    rw [Nat.toDigits_eq_if hbase]
    split
    · simp
    · next hn =>
      have hlt : n / base < n := Nat.div_lt_self (by omega) hbase
      simpa using ih _ hlt

@[simp] theorem oneLine_repr (n : Nat) : OneLine n.repr := by
  rw [OneLine, Nat.toList_repr]
  exact newline_notMem_toDigits (by decide) n

theorem oneLine_toString_int (n : Int) : OneLine (toString n) := by
  rw [Int.toString_eq_repr, Int.repr_eq_if]
  split
  · exact oneLine_repr n.toNat
  · exact oneLine_append.mpr ⟨by decide, oneLine_repr (-n).toNat⟩

theorem newline_notMem_quotedChar (c : Char) : '\n' ∉ quotedChar c := by
  unfold quotedChar
  split_ifs with hmark hnewline
  · rcases hmark with rfl | rfl <;> decide
  · decide
  · decide
  · decide
  · decide
  · have hdigits : '\n' ∉ hexDigits c.toNat := newline_notMem_toDigits (by decide) _
    simpa using hdigits
  · simpa using Ne.symm hnewline

/-- A line feed is escaped between quotes. -/
theorem oneLine_quoted (s : List Char) : OneLine (String.ofList (quoted s)) := by
  have hchars : '\n' ∉ s.flatMap quotedChar := by
    intro h
    obtain ⟨c, -, hc⟩ := List.mem_flatMap.mp h
    exact newline_notMem_quotedChar c hc
  rw [oneLine_ofList]
  simpa [quoted] using hchars

/-! ## Lines -/

/-- The text is these lines, each ended by a line feed and none broken by one. -/
structure ConsistsOf (text : String) (lines : List String) : Prop where
  eq_join : text = String.join (lines.map (· ++ "\n"))
  oneLine : ∀ line ∈ lines, OneLine line

theorem count_join_cons (line : String) (lines : List String) :
    (String.join ((line :: lines).map (· ++ "\n"))).toList.count '\n' =
      line.toList.count '\n' + 1 + (String.join (lines.map (· ++ "\n"))).toList.count '\n' := by
  rw [List.map_cons, String.join_cons, String.toList_append, List.count_append,
    String.toList_append, List.count_append]
  rfl

theorem length_le_count_join (lines : List String) :
    lines.length ≤ (String.join (lines.map (· ++ "\n"))).toList.count '\n' := by
  induction lines with
  | nil => exact Nat.zero_le _
  | cons line lines ih =>
    rw [count_join_cons, List.length_cons]
    omega

/-- As many line feeds as lines are those that end the lines. -/
theorem count_join_eq_length_iff :
    (String.join (lines.map (· ++ "\n"))).toList.count '\n' = lines.length ↔
      ∀ line ∈ lines, OneLine line := by
  induction lines with
  | nil => simp
  | cons line lines ih =>
    have hle := length_le_count_join lines
    rw [List.forall_mem_cons, ← ih, OneLine, ← List.count_eq_zero, count_join_cons,
      List.length_cons]
    omega

/-- If a text is some lines, then as many lines that make it up are not broken either. -/
theorem ConsistsOf.of_length_eq (h : ConsistsOf text lines')
    (heq : text = String.join (lines.map (· ++ "\n"))) (hlength : lines'.length = lines.length) :
    ConsistsOf text lines := by
  obtain ⟨heq', hlines'⟩ := h
  refine ⟨heq, count_join_eq_length_iff.mp ?_⟩
  rw [← heq, ← hlength, heq']
  exact count_join_eq_length_iff.mpr hlines'

end MatchCover.Text
