import MatchCover.Command.Run
import MatchCover.Proofs.Snapshot.RoundTrip

/-!
# The dump of a snapshot

`dump` writes the snapshot that it has read. What it writes spells the value of the snapshot, and
reading it gives the snapshot back, provided that the value does not nest too deep: a type that was
read from a text takes no depth there, but two levels for each level of its arguments when written.
-/

namespace MatchCover.Document

open Json

/-- The texts that are written of a snapshot can be read exactly if its value nests fewer than 128
arrays and objects, and they never give another snapshot than the one that was read before. Of the
floating-point numbers in it is assumed that reading their text gives them back. -/
theorem written_reads_back (text : String) (d : Document) (hread : ofJsonText? text = some d)
    (hfloat : ∀ x, Literal.float x ∈ d.literals →
      (Numeral.ofLexeme? (Json.layout.write x)).bind Numeral.float? = some x)
    (written : String)
    (hwritten : written ∈ [compact d.toJson, pretty d.toJson, d.dump.output]) :
    parse? written = some d.toJson ∧
      ((∃ e, ofJsonText? written = some e) ↔ d.toJson.depth < 128) ∧
      ∀ e, ofJsonText? written = some e → e = d := by
  obtain ⟨j, -, hj⟩ := Option.bind_eq_some_iff.mp hread
  have hd : d.Faithful := faithful_of_ofJson? hj hfloat
  have hparse : parse? written = some d.toJson := by
    simp only [List.mem_cons, List.not_mem_nil, or_false] at hwritten
    rcases hwritten with rfl | rfl | rfl
    · exact parse?_compact (plain_toJson hd)
    · exact parse?_pretty (plain_toJson hd)
    · have hbreak : ∀ c ∈ ['\n'], Token.isSpace c = true := by simp [Token.isSpace]
      have hline := parse?_write Spacing.blank_pretty (plain_toJson hd) ['\n'] hbreak
      rwa [String.ofList_append] at hline
  have hvalue : ofJsonText? written = if d.toJson.depth ≤ depthLimit then some d else none := by
    rw [ofJsonText?, hparse, Option.bind_some, ofJson?_toJson hd]
  have hlimit : depthLimit = 127 := rfl
  refine ⟨hparse, ?_, ?_⟩
  · rw [hvalue]
    split_ifs with h
    · exact ⟨fun _ => by omega, fun _ => ⟨d, rfl⟩⟩
    · exact ⟨fun hread => by simp at hread, fun hdepth => by omega⟩
  · intro e he
    rw [hvalue] at he
    split_ifs at he
    exact (Option.some.inj he).symm

/-- Records in both forms, two floating-point numbers, a control character, a type that cannot be
spelled and an offset of 64 bits. -/
theorem written_reads_back_of_kinds :
    ∃ (text : String) (d : Document),
      text = "[null,[],[[\"U\",[\"B<\"],[0,18446744073709551615]]],[[\"V<A?>\",null," ++
        "[[[\"literal\",1.5],\"\\u0001\"],\x7b\"x\":0,\"pattern\":[\"literal\",-0]\x7d]]]]" ∧
      ofJsonText? text = some d ∧
      d.literals = [.float ⟨false, 6755399441055744, 1022⟩, .float ⟨true, 0, 0⟩] ∧
      d.spans = [⟨0, 18446744073709551615⟩] ∧
      d.expressions.flatMap (·.arms.map (·.result)) = [some "\x01", none] ∧
      d.unions.flatMap (·.variants) = [.named "B<"] ∧
      d.toJson.depth = 7 ∧ ofJsonText? d.dump.output = some d := by
  let d : Document := ⟨none, [], [⟨"U", [.named "B<"], some ⟨0, 18446744073709551615⟩⟩],
    [⟨⟨"V", [⟨"A", [], true⟩], false⟩, none,
      [⟨.literal (.float ⟨false, 6755399441055744, 1022⟩) none, some "\x01", none⟩,
        ⟨.literal (.float ⟨true, 0, 0⟩) none, none, none⟩], none⟩]⟩
  let text : String := "[null,[],[[\"U\",[\"B<\"],[0,18446744073709551615]]],[[\"V<A?>\",null," ++
    "[[[\"literal\",1.5],\"\\u0001\"],\x7b\"x\":0,\"pattern\":[\"literal\",-0]\x7d]]]]"
  have hread : ofJsonText? text = some d := by decide +kernel
  have hfloat : ∀ x, Literal.float x ∈ d.literals →
      (Numeral.ofLexeme? (Json.layout.write x)).bind Numeral.float? = some x := by
    intro x hx
    have hx : x = ⟨false, 6755399441055744, 1022⟩ ∨ x = ⟨true, 0, 0⟩ := by
      simpa [d, literals, Pattern.literal?] using hx
    rcases hx with rfl | rfl <;> decide +kernel
  obtain ⟨-, hsome, heq⟩ := written_reads_back text d hread hfloat d.dump.output (by simp)
  have hdepth : d.toJson.depth = 7 := by decide +kernel
  obtain ⟨e, he⟩ := hsome.mpr (by rw [hdepth]; decide)
  have hback : ofJsonText? d.dump.output = some d := by rw [he, heq e he]
  exact ⟨text, d, rfl, hread, rfl, rfl, rfl, rfl, hdepth, hback⟩

end MatchCover.Document
