import MatchCover.Proofs.Alias.Canonical
import MatchCover.Proofs.Analysis.Diagnostics
import MatchCover.Proofs.Fix.Insertion
import MatchCover.Proofs.Union.Acceptance

/-!
# Locations

The spans of diagnostics and of errors are spans of the document, so that those of a checked
document fit its source. A fix is placed behind the arms of its match, and it can be applied unless
that place is inside a character (`locations_fit_source`).
-/

namespace MatchCover

variable {config : Config} {d : Document} {a : Analyzer} {m : MatchExpr} {e : CheckError}
  {ds : List Diagnostic} {s : Span} {source : String} {length : Nat}

/-! ## Spans of a document -/

namespace Document

theorem checkSpans_eq_ok_iff {n : Option Nat} :
    d.checkSpans n = .ok () ↔ ∀ s ∈ d.spans, s.fault? n = none := by
  rw [checkSpans, forM_eq_ok_iff]
  refine forall₂_congr fun s _ => ?_
  cases s.fault? n <;> simp

theorem span?_of_checkSpans_eq_error {n : Option Nat} (h : d.checkSpans n = .error e) :
    e.span? = none := by
  obtain ⟨s, -, hs⟩ := exists_of_forM_eq_error h
  cases hfault : s.fault? n with
  | none =>
    rw [hfault] at hs
    cases hs
  | some fault =>
    rw [hfault] at hs
    cases hs
    rfl

theorem fits_of_checkSpans (h : d.checkSpans (some length) = .ok ()) (hs : s ∈ d.spans) :
    s.fits length = true := by
  rw [Span.fits, checkSpans_eq_ok_iff.mp h s hs]
  rfl

end Document

/-! ## Spans of errors and diagnostics -/

namespace Analyzer

theorem span?_of_unionOf_eq_error (h : a.unionOf m = .error e) : e.span? = m.span := by
  unfold unionOf at h
  split at h
  · rcases bind_eq_error.mp h with h | ⟨_, -, h⟩
    · unfold Registry.lookup at h
      split at h
      · cases h
      · cases h
        rfl
    · cases h
  · cases h

theorem span?_of_report_eq_error (h : a.report m = .error e) : e.span? = m.span := by
  unfold report at h
  dsimp only at h
  split at h
  · cases h
    rfl
  · rcases bind_eq_error.mp h with h | ⟨_, -, h⟩
    · exact span?_of_unionOf_eq_error h
    · cases h

theorem exists_span_of_diagnose {x : Diagnostic} (h : a.diagnose m = .ok ds) (hx : x ∈ ds)
    (hs : x.span = some s) : m.span = some s ∨ ∃ arm ∈ m.arms, arm.span = some s := by
  rcases diagnose_eq_ok_iff.mp h with ⟨-, rfl⟩ | ⟨u, r, -, rfl⟩
  · cases hx
  · rcases List.mem_append.mp hx with hx | hx
    · rw [(mem_missingDiagnostics hx).1] at hs
      exact .inl hs
    · obtain ⟨⟨arm, harm, hspan⟩, -⟩ := mem_unreachableDiagnostics hx
      rw [hspan] at hs
      rcases Option.or_eq_some_iff.mp hs with hs | ⟨-, hs⟩
      · exact .inr ⟨arm, harm, hs⟩
      · exact .inl hs

theorem mem_spans_of_ofDocument_eq_error (h : ofDocument config d = .error e)
    (hs : e.span? = some s) : s ∈ d.spans := by
  unfold ofDocument at h
  rcases bind_eq_error.mp h with h | ⟨_, -, h⟩
  · rw [Document.span?_of_checkSpans_eq_error h] at hs
    cases hs
  · rcases bind_eq_error.mp h with h | ⟨env, -, h⟩
    · obtain ⟨path, -, rfl⟩ := Environment.ofAliases_eq_error_iff.mp h
      cases hs
    · rcases bind_eq_error.mp h with h | ⟨_, -, h⟩
      · obtain ⟨u, hu, hspan⟩ := Registry.exists_of_ofDecls_eq_error h
        rw [hspan] at hs
        exact Document.mem_spans.mpr (.inl ⟨u, hu, hs⟩)
      · cases h

end Analyzer

theorem mem_spans_of_analyzeDocument_eq_error (h : analyzeDocument config d = .error e)
    (hs : e.span? = some s) : s ∈ d.spans := by
  rcases exists_of_analyzeDocument_eq_error h with h | ⟨a, -, m, hm, h⟩
  · exact Analyzer.mem_spans_of_ofDocument_eq_error h hs
  · rw [Analyzer.span?_of_report_eq_error (Analyzer.diagnose_eq_error_iff.mp h)] at hs
    exact Document.mem_spans.mpr (.inr ⟨m, hm, .inl hs⟩)

theorem mem_spans_of_analyzeDocument {x : Diagnostic} (h : analyzeDocument config d = .ok ds)
    (hx : x ∈ ds) (hs : x.span = some s) : s ∈ d.spans := by
  obtain ⟨a, found, -, hfound, rfl⟩ := analyzeDocument_eq_ok_iff.mp h
  obtain ⟨m, hm, xs, hxs, hx⟩ := exists_diagnose_of_mem hfound hx
  rcases Analyzer.exists_span_of_diagnose hxs hx hs with hs | ⟨arm, harm, hs⟩
  · exact Document.mem_spans.mpr (.inr ⟨m, hm, .inl hs⟩)
  · exact Document.mem_spans.mpr (.inr ⟨m, hm, .inr ⟨arm, harm, hs⟩⟩)

/-! ## Places of fixes -/

/-- The fix stands behind all arms of the match that have a place, if there are any, and within a
source of that length. -/
structure Fix.Follows (f : Fix) (m : MatchExpr) (length : Nat) : Prop where
  none_iff : f.insertAt = none ↔ ∀ arm ∈ m.arms, arm.span = none
  within : ∀ offset, f.insertAt = some offset → offset ≤ length
  behind : ∀ offset, f.insertAt = some offset →
    ∀ arm ∈ m.arms, ∀ s, arm.span = some s → s.stop ≤ offset

theorem MatchExpr.armSpans_eq_nil_iff : m.armSpans = [] ↔ ∀ arm ∈ m.arms, arm.span = none :=
  List.filterMap_eq_nil_iff

theorem Fix.follows_suggest {missing : List TypeRef} {style : FixStyle}
    (h : d.checkSpans (some length) = .ok ()) (hm : m ∈ d.expressions) :
    (Fix.suggest m missing style).Follows m length where
  none_iff := by
    rw [insertAt_suggest, MatchExpr.insertionOffset?_eq_none_iff, MatchExpr.armSpans_eq_nil_iff]
  within offset hoffset := by
    rw [insertAt_suggest] at hoffset
    obtain ⟨⟨s, hs, rfl⟩, -⟩ := MatchExpr.isGreatest_of_insertionOffset? hoffset
    obtain ⟨arm, harm, hspan⟩ := List.mem_filterMap.mp hs
    have hmem : s ∈ d.spans := Document.mem_spans.mpr (.inr ⟨m, hm, .inr ⟨arm, harm, hspan⟩⟩)
    exact (Span.fits_iff.mp (Document.fits_of_checkSpans h hmem)).2
  behind offset hoffset arm harm s hs := by
    rw [insertAt_suggest] at hoffset
    have hgreatest := MatchExpr.isGreatest_of_insertionOffset? hoffset
    exact hgreatest.2 ⟨s, List.mem_filterMap.mpr ⟨arm, harm, hs⟩, rfl⟩

theorem Analyzer.follows_of_diagnose {x : Diagnostic} {f : Fix}
    (h : d.checkSpans (some length) = .ok ()) (hm : m ∈ d.expressions) (hds : a.diagnose m = .ok ds)
    (hx : x ∈ ds) (hf : x.fix = some f) : f.Follows m length := by
  have hmem : f ∈ ds.filterMap (·.fix) := List.mem_filterMap.mpr ⟨x, hx, hf⟩
  rw [filterMap_fix_diagnose hds, Option.mem_toList] at hmem
  obtain ⟨missing, -, rfl⟩ := Option.map_eq_some_iff.mp hmem
  exact Fix.follows_suggest h hm

/-- Edits for fixes that stand within the source fail exactly if one stands inside a character. -/
theorem Edit.exists_applyAll_eq_error_iff
    (h : ∀ x ∈ ds, ∀ f offset, x.fix = some f → f.insertAt = some offset →
      offset ≤ Text.byteLength source.toList) :
    (∃ e, Edit.applyAll source (Input.edits source ds) = .error e) ↔
      ∃ x ∈ ds, ∃ f offset, x.fix = some f ∧ f.insertAt = some offset ∧
        Text.InsideChar source.toList offset := by
  constructor
  · rintro ⟨e, happly⟩
    obtain ⟨-, edit, hedit, hno⟩ := exists_of_applyAll_eq_error happly
    obtain ⟨f, hf, hplace⟩ := List.mem_filterMap.mp hedit
    obtain ⟨x, hx, hf⟩ := List.mem_filterMap.mp hf
    obtain ⟨offset, hoffset, rfl⟩ := Option.map_eq_some_iff.mp hplace
    have hin := (Text.isBoundary_eq_false_iff (h x hx f offset hf hoffset)).mp hno
    exact ⟨x, hx, f, offset, hf, hoffset, hin⟩
  · rintro ⟨x, hx, f, offset, hf, hoffset, hin⟩
    cases happly : applyAll source (Input.edits source ds) with
    | error e => exact ⟨e, rfl⟩
    | ok out =>
      obtain ⟨edit, hedit, rfl⟩ : ∃ edit, ofFix? f source = some edit ∧ edit.offset = offset := by
        simp [ofFix?, hoffset]
      have hmem : f ∈ ds.filterMap (·.fix) := List.mem_filterMap.mpr ⟨x, hx, hf⟩
      have hplace := (applyAll_eq_ok_iff.mp happly).1 edit (List.mem_filterMap.mpr ⟨f, hmem, hedit⟩)
      exact absurd hplace hin.not_isBoundary

theorem Text.not_insideChar_of_ascii {text : List Char} (h : ∀ c ∈ text, c.toNat < 128)
    (offset : Nat) : ¬ InsideChar text offset := by
  rintro ⟨before, c, after, rfl, hlo, hhi⟩
  have hc : c.toNat < 128 := h c (by simp)
  have hsize : c.utf8Size = 1 :=
    Char.utf8Size_eq_one_iff.mpr (UInt32.le_iff_toNat_le.mpr (Nat.le_of_lt_succ hc))
  omega

theorem Span.fitting?_eq_self {span : Option Span}
    (h : ∀ s, span = some s → s.fits (Text.byteLength source.toList) = true) :
    Span.fitting? span source = span := by
  cases span with
  | none => rfl
  | some s => simp [fitting?, Option.filter, h s rfl]

/-- In a document whose spans fit the source, so do the spans of diagnostics and of the error, and a
report discards none of them. Fixes have a place exactly if an arm of their match has one, within
the source and behind all arms. Applying the fixes fails exactly if a place is inside a character,
so never in a source of ASCII characters. -/
theorem locations_fit_source (config : Config) (d : Document) (source : String)
    (h : d.checkSpans (some (Text.byteLength source.toList)) = .ok ()) :
    (∀ e, analyzeDocument config d = .error e →
      (∀ s, e.span? = some s → s.start ≤ s.stop ∧ s.stop ≤ Text.byteLength source.toList) ∧
      Span.fitting? e.span? source = e.span?) ∧
    ∀ ds, analyzeDocument config d = .ok ds →
      (∀ x ∈ ds,
        (∀ s, x.span = some s → s.start ≤ s.stop ∧ s.stop ≤ Text.byteLength source.toList) ∧
        Span.fitting? x.span source = x.span) ∧
      (∃ a found, Analyzer.ofDocument config d = .ok a ∧ ds = found.flatten ∧
        List.Forall₂ (fun m xs => a.diagnose m = .ok xs ∧ ∀ x ∈ xs, ∀ f, x.fix = some f →
          f.Follows m (Text.byteLength source.toList)) d.expressions found) ∧
      (∀ i : Input, i.document = d → i.config = config → i.source = some source →
        i.fixed = (Edit.applyAll source (Input.edits source ds)).mapError i.failure) ∧
      ((∃ e, Edit.applyAll source (Input.edits source ds) = .error e) ↔
        ∃ x ∈ ds, ∃ f offset, x.fix = some f ∧ f.insertAt = some offset ∧
          Text.InsideChar source.toList offset) ∧
      ((∀ c ∈ source.toList, c.toNat < 128) →
        ∃ out, Edit.applyAll source (Input.edits source ds) = .ok out) := by
  have hfits (s : Span) (hs : s ∈ d.spans) := Document.fits_of_checkSpans h hs
  refine ⟨?_, ?_⟩
  · intro e he
    have hspan (s : Span) (hs : e.span? = some s) :=
      hfits s (mem_spans_of_analyzeDocument_eq_error he hs)
    exact ⟨fun s hs => Span.fits_iff.mp (hspan s hs), Span.fitting?_eq_self hspan⟩
  intro ds hds
  have hspan (x : Diagnostic) (hx : x ∈ ds) (s : Span) (hs : x.span = some s) :=
    hfits s (mem_spans_of_analyzeDocument hds hx hs)
  have hplace (x : Diagnostic) (hx : x ∈ ds) (f : Fix) (hf : x.fix = some f) :
      ∃ m, f.Follows m (Text.byteLength source.toList) := by
    obtain ⟨a, found, -, hfound, rfl⟩ := analyzeDocument_eq_ok_iff.mp hds
    obtain ⟨m, hm, xs, hxs, hx⟩ := exists_diagnose_of_mem hfound hx
    exact ⟨m, Analyzer.follows_of_diagnose h hm hxs hx hf⟩
  have hwithin (x : Diagnostic) (hx : x ∈ ds) (f : Fix) (offset : Nat) (hf : x.fix = some f)
      (hoffset : f.insertAt = some offset) : offset ≤ Text.byteLength source.toList := by
    obtain ⟨m, hm⟩ := hplace x hx f hf
    exact hm.within offset hoffset
  have hfails := Edit.exists_applyAll_eq_error_iff hwithin
  refine ⟨fun x hx => ?_, ?_, ?_, hfails, ?_⟩
  · exact ⟨fun s hs => Span.fits_iff.mp (hspan x hx s hs), Span.fitting?_eq_self (hspan x hx)⟩
  · obtain ⟨a, found, ha, hfound, rfl⟩ := analyzeDocument_eq_ok_iff.mp hds
    have hmem := (List.forall₂_and_left _ _).mpr ⟨fun m hm => hm, hfound⟩
    refine ⟨a, found, ha, rfl, hmem.imp fun m xs ⟨hm, hxs⟩ => ⟨hxs, fun x hx f hf => ?_⟩⟩
    exact Analyzer.follows_of_diagnose h hm hxs hx hf
  · rintro i rfl rfl hsource
    rw [Input.fixed_of_source hsource, hds]
    rfl
  · intro hascii
    cases happly : Edit.applyAll source (Input.edits source ds) with
    | ok out => exact ⟨out, rfl⟩
    | error e =>
      obtain ⟨x, -, f, offset, -, -, hin⟩ := hfails.mp ⟨e, happly⟩
      exact absurd hin (Text.not_insideChar_of_ascii hascii offset)

/-- The one arm ends inside a character of two bytes: its span fits the source, and so does that of
the diagnostic, but the fix cannot be applied. -/
theorem locations_fit_source_of_place_inside_char :
    ∃ (config : Config) (d : Document) (source : String),
      d.checkSpans (some (Text.byteLength source.toList)) = .ok () ∧ source = "aé" ∧
      d.spans = [⟨0, 3⟩, ⟨0, 2⟩] ∧ ∃ ds, analyzeDocument config d = .ok ds ∧
        ds.map (·.span) = [some ⟨0, 3⟩] ∧
        (∀ x ∈ ds, Span.fitting? x.span source = x.span) ∧
        ∃ e, Edit.applyAll source (Input.edits source ds) = .error e := by
  let m : MatchExpr := ⟨⟨"OneOf", [.named "A", .named "B"], false⟩, none,
    [⟨.typeTest (some (.named "A")) none, none, some ⟨0, 2⟩⟩], some ⟨0, 3⟩⟩
  let d : Document := ⟨none, [], [], [m]⟩
  let a : Analyzer := ⟨{}, ⟨[], true⟩, ⟨["OneOf"], []⟩⟩
  have hds : ∃ ds x, analyzeDocument {} d = .ok ds ∧ ds = [x] ∧ x.span = some ⟨0, 3⟩ ∧
      ∃ f, x.fix = some f ∧ f.insertAt = some 2 :=
    ⟨_, _, analyzeDocument_eq_ok_iff.mpr ⟨a, _, by cbv, .cons rfl .nil, rfl⟩, rfl, rfl, _, rfl, rfl⟩
  obtain ⟨ds, x, hds, rfl, hspan, f, hf, hoffset⟩ := hds
  have hcheck : d.checkSpans (some (Text.byteLength "aé".toList)) = .ok () :=
    Document.checkSpans_eq_ok_iff.mpr (by decide)
  obtain ⟨hfits, -, -, hfails, -⟩ := (locations_fit_source {} d "aé" hcheck).2 _ hds
  have hinside : Text.InsideChar "aé".toList 2 := ⟨['a'], 'é', [], by decide, by decide, by decide⟩
  exact ⟨{}, d, "aé", hcheck, rfl, rfl, _, hds, by simp [hspan], fun x hx => (hfits x hx).2,
    hfails.mpr ⟨x, List.mem_singleton_self x, f, 2, hf, hoffset, hinside⟩⟩

end MatchCover
