import MatchCover.Proofs.Analysis.Diagnostics
import MatchCover.Proofs.Fix.Insertion

/-!
# What fixing adds to the source

Fixing puts in one block for each match that lacks arms and has a place for them, and leaves the
source as it is elsewhere (`fixed_inserts_blocks`).
-/

namespace MatchCover

variable {a : Analyzer} {m : MatchExpr} {source : String} {e : Edit}

namespace Analyzer

/-- Whether missing variants of the match are reported and an arm of it has a place. -/
def needsBlock (a : Analyzer) (m : MatchExpr) : Bool := (a.missing? m).isSome && !m.armSpans.isEmpty

/-- The edit is the block of new arms for a match: it stands where the arm that ends last does, and
each arm of the fix for the missing variants is put on a line of its own, after a comma and indented
like the line of that place. -/
structure IsBlock (a : Analyzer) (source : String) (m : MatchExpr) (e : Edit) : Prop where
  place : IsGreatest {o | ∃ s ∈ m.armSpans, s.stop = o} e.offset
  arms : ∃ missing indent, a.missing? m = some missing ∧
    Edit.IsIndentAt source.toList e.offset indent ∧
    e.text.toList = (Fix.suggest m missing a.config.fixStyle).arms.flatMap fun arm =>
      [',', '\n'] ++ indent ++ arm.toList

/-- The block for a match, if it needs one. -/
def block? (a : Analyzer) (source : String) (m : MatchExpr) : Option Edit :=
  (a.missing? m).bind fun missing => Edit.ofFix? (Fix.suggest m missing a.config.fixStyle) source

theorem needsBlock_eq_isSome : a.needsBlock m = (a.block? source m).isSome := by
  unfold needsBlock block?
  cases a.missing? m with
  | none => rfl
  | some missing =>
    have hplace : m.insertionOffset?.isSome = !m.armSpans.isEmpty := by
      rw [Bool.eq_iff_iff, Option.isSome_iff_ne_none, ne_eq,
        MatchExpr.insertionOffset?_eq_none_iff]
      simp
    simp [Edit.ofFix?, Fix.insertAt_suggest, hplace]

theorem isBlock_of_block? (h : a.block? source m = some e)
    (hplace : Text.isBoundary source.toList e.offset = true) : a.IsBlock source m e := by
  obtain ⟨missing, hmissing, hfix⟩ := Option.bind_eq_some_iff.mp h
  obtain ⟨offset, hoffset, rfl⟩ := Option.map_eq_some_iff.mp hfix
  rw [Fix.insertAt_suggest] at hoffset
  exact ⟨MatchExpr.isGreatest_of_insertionOffset? hoffset, missing, _, hmissing,
    Edit.isIndentAt_indentAt hplace, String.toList_ofList⟩

theorem forall₂_isBlock {ms : List MatchExpr}
    (h : ∀ e ∈ ms.filterMap (a.block? source), Text.isBoundary source.toList e.offset = true) :
    List.Forall₂ (a.IsBlock source) (ms.filter a.needsBlock) (ms.filterMap (a.block? source)) := by
  induction ms with
  | nil => exact .nil
  | cons m ms ih =>
    have hneeds : a.needsBlock m = (a.block? source m).isSome := needsBlock_eq_isSome
    cases hblock : a.block? source m with
    | none =>
      rw [hblock] at hneeds
      rw [List.filterMap_cons_none hblock] at h ⊢
      rw [List.filter_cons_of_neg (by simp [hneeds])]
      exact ih h
    | some e =>
      rw [hblock] at hneeds
      rw [List.filterMap_cons_some hblock] at h ⊢
      obtain ⟨he, h⟩ := List.forall_mem_cons.mp h
      rw [List.filter_cons_of_pos (by simp [hneeds])]
      exact .cons (isBlock_of_block? hblock he) (ih h)

end Analyzer

namespace Input

theorem edits_append {xs ys : List Diagnostic} :
    edits source (xs ++ ys) = edits source xs ++ edits source ys := by
  simp only [edits, List.filterMap_append]

theorem edits_diagnose {xs : List Diagnostic} (h : a.diagnose m = .ok xs) :
    edits source xs = (a.block? source m).toList := by
  rw [edits, Analyzer.filterMap_fix_diagnose h, Analyzer.block?]
  cases a.missing? m with
  | none => rfl
  | some missing =>
    cases hfix : Edit.ofFix? (Fix.suggest m missing a.config.fixStyle) source <;> simp [hfix]

theorem edits_flatten {ms : List MatchExpr} {found : List (List Diagnostic)}
    (h : List.Forall₂ (fun m xs => a.diagnose m = .ok xs) ms found) :
    edits source found.flatten = ms.filterMap (a.block? source) := by
  induction h with
  | nil => rfl
  | @cons m _ _ _ hxs _ ih =>
    rw [List.flatten_cons, edits_append, edits_diagnose hxs, ih, List.filterMap_cons]
    cases a.block? source m <;> rfl

/-- When fixing succeeds, it gives the source with one block put in for each match over a union that
misses variants and has an arm with a place, where missing variants are reported; blocks for one
place follow each other like the matches. Without such a match the source stays as it is. -/
theorem fixed_inserts_blocks (i : Input) (source out : String) (hsource : i.source = some source)
    (h : i.fixed = .ok out) :
    ∃ a blocks, Analyzer.ofDocument i.config i.document = .ok a ∧
      List.Forall₂ (a.IsBlock source) (i.document.expressions.filter a.needsBlock) blocks ∧
      (∀ e ∈ blocks, Text.isBoundary source.toList e.offset = true) ∧
      out.toList = Edit.weave (Edit.textAt blocks) 0 source.toList ∧
      ((∀ m ∈ i.document.expressions, a.needsBlock m = false) → out = source) ∧
      (i.config.levels.missingCases = .off → out = source) ∧
      ((∀ m ∈ i.document.expressions, ∀ u r, a.report m = .ok (some (u, r)) →
        r.verdict = .exhaustive) → out = source) := by
  rw [fixed_of_source hsource, mapError_eq_ok] at h
  obtain ⟨ds, hds, happly⟩ := bind_eq_ok.mp h
  obtain ⟨a, found, ha, hfound, rfl⟩ := analyzeDocument_eq_ok_iff.mp hds
  rw [edits_flatten hfound] at happly
  obtain ⟨hplaces, hout⟩ := Edit.applyAll_eq_ok_iff.mp happly
  have hblocks := Analyzer.forall₂_isBlock hplaces
  have hsame (hnone : ∀ m ∈ i.document.expressions, a.needsBlock m = false) : out = source := by
    have hfilter : i.document.expressions.filter a.needsBlock = [] := by simpa using hnone
    rw [hfilter, List.forall₂_nil_left_iff] at hblocks
    rw [hblocks, Edit.weave_nil] at hout
    exact String.toList_inj.mp hout
  have hmissing (hnone : ∀ m ∈ i.document.expressions, ∀ missing, a.missing? m ≠ some missing) :
      out = source := by
    refine hsame fun m hm => ?_
    rw [Analyzer.needsBlock, Option.eq_none_iff_forall_ne_some.mpr (hnone m hm)]
    rfl
  refine ⟨a, _, ha, hblocks, hplaces, hout, hsame, ?_, ?_⟩
  · intro hoff
    refine hmissing fun m _ missing h => ?_
    rw [← Analyzer.config_of_ofDocument ha] at hoff
    exact (Analyzer.missing?_eq_some_iff.mp h).1 hoff
  · intro hexhaustive
    refine hmissing fun m hm missing h => ?_
    obtain ⟨-, u, r, hreport, hverdict⟩ := Analyzer.missing?_eq_some_iff.mp h
    rw [hexhaustive m hm u r hreport] at hverdict
    cases hverdict

/-- Two matches share the arm that ends last, and a third one, whose block comes first in the
source, has its place behind a character of two bytes. -/
theorem fixed_inserts_blocks_of_shared_place :
    ∃ (i : Input) (source out : String), i.source = some source ∧ i.fixed = .ok out ∧
      source = "x (\n\té => 1,\n\tA => 2 )" ∧
      out = "x (\n\té => 1,\n\tE => 0,\n\tA => 2,\n\tB => 0,\n\tD => 0 )" ∧
      ∃ a blocks, Analyzer.ofDocument i.config i.document = .ok a ∧
        List.Forall₂ (a.IsBlock source) (i.document.expressions.filter a.needsBlock) blocks ∧
        (∀ e ∈ blocks, Text.isBoundary source.toList e.offset = true) ∧
        out.toList = Edit.weave (Edit.textAt blocks) 0 source.toList := by
  let expressions : List MatchExpr := [
    ⟨⟨"OneOf", [.named "A", .named "B"], false⟩, none,
      [⟨.typeTest (some (.named "A")) none, none, some ⟨15, 21⟩⟩], none⟩,
    ⟨⟨"OneOf", [.named "A", .named "C", .named "D"], false⟩, none,
      [⟨.typeTest (some (.named "A")) none, none, some ⟨15, 21⟩⟩,
        ⟨.typeTest (some (.named "C")) none, none, some ⟨0, 3⟩⟩], none⟩,
    ⟨⟨"OneOf", [.named "E"], false⟩, none,
      [⟨.literal .null (some (.named "E")), none, some ⟨5, 12⟩⟩], none⟩]
  let config : Config := { fixStyle := ⟨.arms, "\x7btype\x7d => 0"⟩ }
  let a : Analyzer := ⟨config, ⟨[], true⟩, ⟨["OneOf"], []⟩⟩
  let source : String := "x (\n\té => 1,\n\tA => 2 )"
  let i : Input := ⟨⟨none, [], [], expressions⟩, config, "x.cs", some source⟩
  have hanalyze : ∃ ds, analyzeDocument i.config i.document = .ok ds ∧
      edits source ds = expressions.filterMap (a.block? source) := by
    have hfound : List.Forall₂ (fun m xs => a.diagnose m = .ok xs) expressions _ :=
      .cons rfl (.cons rfl (.cons rfl .nil))
    exact ⟨_, analyzeDocument_eq_ok_iff.mpr ⟨a, _, by cbv, hfound, rfl⟩, edits_flatten hfound⟩
  obtain ⟨ds, hds, hedits⟩ := hanalyze
  have hblocks : expressions.filterMap (a.block? source) =
      [⟨21, ",\n\tB => 0"⟩, ⟨21, ",\n\tD => 0"⟩, ⟨12, ",\n\tE => 0"⟩] := by decide
  have hfixed : i.fixed =
      .ok "x (\n\té => 1,\n\tE => 0,\n\tA => 2,\n\tB => 0,\n\tD => 0 )" := by
    rw [fixed_of_source rfl, mapError_eq_ok, bind_eq_ok]
    refine ⟨ds, hds, Edit.applyAll_eq_ok_iff.mpr ?_⟩
    rw [hedits, hblocks]
    exact ⟨by decide, by decide⟩
  obtain ⟨a, blocks, ha, hforall, hplaces, hout, -⟩ := fixed_inserts_blocks i source _ rfl hfixed
  exact ⟨i, source, _, rfl, hfixed, rfl, rfl, a, blocks, ha, hforall, hplaces, hout⟩

end Input

end MatchCover
