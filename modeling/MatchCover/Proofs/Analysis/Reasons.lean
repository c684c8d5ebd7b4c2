import MatchCover.Proofs.Analysis.Diagnostics
import MatchCover.Proofs.Coverage.Shadowing

/-!
# Reasons why arms are never chosen

The check finds the arms that are never chosen from keys of types, while the note on such an arm is
made from its pattern as it is spelled and from the place of the first discard. Still the note is
true: an arm that is reported is shadowed by the arms before it, and what shadows it is either a
discard or a test for its type (`shadowed_coverageArms`). So a reported arm after which no note on a
type can be made always comes after a discard, and the note for other patterns is never used.
-/

namespace MatchCover

open Coverage (Shadowed)

/-! ## What stands before an arm -/

/-- A discard stands before arm `i`. -/
def AfterDiscard (arms : List MatchArm) (i : Nat) : Prop :=
  ∃ j < i, ∃ arm, arms[j]? = some arm ∧ arm.pattern = .discard

/-- Before arm `i` stands a test for a type that means the same as `t`. -/
def AfterTest (env : Environment) (arms : List MatchArm) (i : Nat) (t : TypeRef) : Prop :=
  ∃ j < i, ∃ arm u binding, arms[j]? = some arm ∧ arm.pattern = .typeTest (some u) binding ∧
    env.canonical u = env.canonical t

/-- The note says that an earlier arm matches every value of the type `t` of a pattern, and of a
literal also which value this is. -/
inductive SaysTested : Pattern → TypeRef → String → Prop where
  | typeTest (t : TypeRef) (binding : Option String) :
    SaysTested (.typeTest (some t) binding) t
      ("an earlier arm already matches every `" ++ t.display ++ "`")
  | literal (value : Literal) (t : TypeRef) :
    SaysTested (.literal value (some t)) t
      ("an earlier arm already matches every `" ++ t.display ++ "`, including `" ++
        value.display ++ "`")

/-- The diagnostic is on arm `i`, and gives the reason why that arm is never chosen. -/
structure GivesReason (env : Environment) (arms : List MatchArm) (i : Nat) (x : Diagnostic) :
    Prop where
  arm : x.arm = some i
  discard : x.notes = ["an earlier discard arm matches every value"] ↔ AfterDiscard arms i
  tested : ¬ AfterDiscard arms i → ∃ arm t note, arms[i]? = some arm ∧ x.notes = [note] ∧
    SaysTested arm.pattern t note ∧ AfterTest env arms i t

section
variable {arms : List MatchArm} {env : Environment} {i : Nat} {arm : MatchArm} {t : TypeRef}

theorem mem_take_iff_getElem? {α : Type} {l : List α} {a : α} :
    a ∈ l.take i ↔ ∃ j < i, l[j]? = some a := by
  rw [List.mem_iff_getElem?]
  refine exists_congr fun j => ?_
  rw [List.getElem?_take]
  split
  · next h => simp [h]
  · next h => simp [h]

theorem mem_take_coverageArms {a : Coverage.Arm TypeRef} :
    a ∈ (arms.map (·.pattern.coverageArm)).take i ↔
      ∃ j < i, ∃ arm, arms[j]? = some arm ∧ arm.pattern.coverageArm = a := by
  simp only [mem_take_iff_getElem?, List.getElem?_map, Option.map_eq_some_iff]

theorem discard_mem_take_coverageArms :
    .discard ∈ (arms.map (·.pattern.coverageArm)).take i ↔ AfterDiscard arms i := by
  rw [mem_take_coverageArms]
  refine exists_congr fun j => and_congr_right fun _ => exists_congr fun arm =>
    and_congr_right fun _ => ?_
  cases arm.pattern <;> simp [Pattern.coverageArm]

theorem afterTest_of_mem_testedKeys
    (h : env.canonical t ∈
      Coverage.testedKeys env.canonical ((arms.map (·.pattern.coverageArm)).take i)) :
    AfterTest env arms i t := by
  obtain ⟨u, hu, hkey⟩ := Coverage.mem_testedKeys.mp h
  obtain ⟨j, hj, arm, harm, hpattern⟩ := mem_take_coverageArms.mp hu
  rcases hp : arm.pattern with _ | ⟨value, type⟩ | ⟨type, binding⟩
  · rw [hp] at hpattern
    cases hpattern
  · rw [hp] at hpattern
    cases hpattern
  · rw [hp] at hpattern
    cases hpattern
    exact ⟨j, hj, arm, u, binding, harm, hp, hkey⟩

/-- What shadows an arm is a discard, or a test for its type. -/
theorem shadowed_coverageArms
    (h : Shadowed env.canonical ((arms.map (·.pattern.coverageArm)).take i)
      arm.pattern.coverageArm) :
    AfterDiscard arms i ∨ ∃ t, arm.pattern.coverageArm.type? = some t ∧ AfterTest env arms i t := by
  rcases h with hd | ⟨t, ht, hkey⟩
  · exact .inl (discard_mem_take_coverageArms.mp hd)
  · exact .inr ⟨t, ht, afterTest_of_mem_testedKeys hkey⟩

/-- Some discard comes before an arm exactly if the first one does. -/
theorem any_findIdx?_isDiscard :
    (arms.findIdx? (·.pattern.isDiscard)).any (· < i) = true ↔ AfterDiscard arms i := by
  have hfirst : (arms.findIdx? (·.pattern.isDiscard)).any (· < i) =
      (arms.take i).any (·.pattern.isDiscard) := by
    rw [← List.findIdx?_isSome, List.findIdx?_take]
    cases arms.findIdx? (·.pattern.isDiscard) with
    | none => rfl
    | some j => by_cases h : j < i <;> simp [h]
  rw [hfirst, List.any_eq_true]
  simp only [mem_take_iff_getElem?, Pattern.isDiscard_iff, AfterDiscard]
  constructor
  · rintro ⟨arm, ⟨j, hj, harm⟩, hdiscard⟩
    exact ⟨j, hj, arm, harm, hdiscard⟩
  · rintro ⟨j, hj, arm, harm, hdiscard⟩
    exact ⟨arm, ⟨j, hj, harm⟩, hdiscard⟩

end

/-! ## The texts of the notes -/

theorem isPrefix_append {p s : String} (h : p.toList <+: s.toList) (t : String) :
    p.toList <+: (s ++ t).toList := by
  rw [String.toList_append]
  exact h.trans (List.prefix_append _ _)

theorem SaysTested.isPrefix {pattern : Pattern} {t : TypeRef} {note : String}
    (h : SaysTested pattern t note) :
    "an earlier arm already matches every `".toList <+: note.toList := by
  cases h with
  | typeTest => exact isPrefix_append (isPrefix_append List.prefix_rfl _) _
  | literal value =>
    exact isPrefix_append (isPrefix_append (isPrefix_append (isPrefix_append
      List.prefix_rfl _) _) _) _

namespace Analyzer

variable {a : Analyzer} {m : MatchExpr} {u : UnionType} {r : Coverage.Report TypeRef}
  {env : Environment} {i : Nat} {arm : MatchArm} {x : Diagnostic}

theorem unreachableReason_of_afterDiscard {pattern : Pattern} (h : AfterDiscard m.arms i) :
    unreachableReason pattern i (m.arms.findIdx? (·.pattern.isDiscard)) =
      "an earlier discard arm matches every value" := by
  unfold unreachableReason
  rw [if_pos (any_findIdx?_isDiscard.mpr h)]

theorem saysTested_unreachableReason {pattern : Pattern} {t : TypeRef}
    (h : ¬ AfterDiscard m.arms i) (ht : pattern.coverageArm.type? = some t) :
    SaysTested pattern t (unreachableReason pattern i (m.arms.findIdx? (·.pattern.isDiscard))) := by
  unfold unreachableReason
  rw [if_neg (mt any_findIdx?_isDiscard.mp h)]
  cases pattern with
  | discard => cases ht
  | literal value type =>
    obtain rfl : type = some t := ht
    exact .literal value t
  | typeTest type binding =>
    obtain rfl : type = some t := ht
    exact .typeTest t binding

/-- The diagnostic on a shadowed arm gives the reason. -/
theorem givesReason_unreachableDiagnostic (severity : Severity) (harm : m.arms[i]? = some arm)
    (hs : Shadowed env.canonical ((m.arms.map (·.pattern.coverageArm)).take i)
      arm.pattern.coverageArm) :
    GivesReason env m.arms i (unreachableDiagnostic m severity i arm) := by
  have htested : ¬ AfterDiscard m.arms i → ∃ t, SaysTested arm.pattern t
      (unreachableReason arm.pattern i (m.arms.findIdx? (·.pattern.isDiscard))) ∧
        AfterTest env m.arms i t := by
    intro hd
    obtain ⟨t, ht, hafter⟩ := (shadowed_coverageArms hs).resolve_left hd
    exact ⟨t, saysTested_unreachableReason hd ht, hafter⟩
  refine ⟨rfl, ⟨fun hnote => ?_, fun hd => ?_⟩, fun hd => ?_⟩
  · by_contra hd
    obtain ⟨t, hsays, -⟩ := htested hd
    have hprefix : ¬ "an earlier arm already matches every `".toList <+:
        "an earlier discard arm matches every value".toList := by decide
    exact hprefix (List.singleton_inj.mp hnote ▸ hsays.isPrefix)
  · exact congrArg (fun note => [note]) (unreachableReason_of_afterDiscard hd)
  · obtain ⟨t, hsays, hafter⟩ := htested hd
    exact ⟨arm, t, _, harm, rfl, hsays, hafter⟩

theorem filter_kind_missingDiagnostics :
    (a.missingDiagnostics m u r).filter (·.kind = .unreachableArm) = [] := by
  unfold missingDiagnostics
  split <;> rfl

theorem filter_kind_unreachableDiagnostics :
    (a.unreachableDiagnostics m r).filter (·.kind = .unreachableArm) =
      a.unreachableDiagnostics m r := by
  rw [List.filter_eq_self]
  intro x hx
  unfold unreachableDiagnostics at hx
  split at hx
  · obtain ⟨i, -, hx⟩ := List.mem_filterMap.mp hx
    obtain ⟨arm, -, rfl⟩ := Option.map_eq_some_iff.mp hx
    rfl
  · cases hx

/-- The arms that are reported are shadowed. -/
theorem shadowed_of_report (h : a.report m = .ok (some (u, r))) (hi : i ∈ r.unreachable) :
    ∃ arm, m.arms[i]? = some arm ∧
      Shadowed a.env.canonical ((m.arms.map (·.pattern.coverageArm)).take i)
        arm.pattern.coverageArm := by
  obtain ⟨-, -, rfl⟩ := report_eq_some_iff.mp h
  have hlt : i < m.arms.length := by simpa using Coverage.lt_length_of_mem_unreachableArms hi
  have harm : m.arms[i]? = some m.arms[i] := List.getElem?_eq_getElem hlt
  refine ⟨m.arms[i], harm, (Coverage.mem_unreachableArms ?_).mp hi⟩
  rw [List.getElem?_map, harm, Option.map_some]

theorem forall₂_givesReason (h : a.report m = .ok (some (u, r)))
    (hlevel : a.config.levels.unreachableArm ≠ .off) :
    List.Forall₂ (GivesReason a.env m.arms) r.unreachable (a.unreachableDiagnostics m r) := by
  obtain ⟨severity, hseverity⟩ := exists_severity?_iff.mpr hlevel
  have hshadowed : ∀ i ∈ r.unreachable, _ := fun i hi => shadowed_of_report h hi
  unfold unreachableDiagnostics
  rw [hseverity]
  dsimp only
  generalize r.unreachable = indices at hshadowed
  induction indices with
  | nil => exact .nil
  | cons i indices ih =>
    obtain ⟨⟨arm, harm, hs⟩, hrest⟩ := List.forall_mem_cons.mp hshadowed
    rw [List.filterMap_cons_some (by rw [harm]; rfl)]
    exact .cons (givesReason_unreachableDiagnostic severity harm hs) (ih hrest)

/-! ## The note for other patterns -/

theorem otherNote_notMem_of_givesReason {arms : List MatchArm} (h : GivesReason env arms i x) :
    "an earlier arm already matches this pattern" ∉ x.notes := by
  by_cases hd : AfterDiscard arms i
  · rw [h.discard.mpr hd]
    decide
  · obtain ⟨_, _, note, -, hnotes, hsays, -⟩ := h.tested hd
    have hprefix : ¬ "an earlier arm already matches every `".toList <+:
        "an earlier arm already matches this pattern".toList := by decide
    rw [hnotes, List.mem_singleton]
    rintro rfl
    exact hprefix hsays.isPrefix

theorem isPrefix_literalNote (t : TypeRef) :
    "a literal pattern matches only one value of `".toList <+: (literalNote t).toList :=
  isPrefix_append (isPrefix_append (isPrefix_append (isPrefix_append List.prefix_rfl _) _) _) _

theorem otherNote_notMem_missingDiagnostics (hx : x ∈ a.missingDiagnostics m u r) :
    "an earlier arm already matches this pattern" ∉ x.notes := by
  unfold missingDiagnostics at hx
  split at hx
  · obtain rfl := List.mem_singleton.mp hx
    intro hnote
    obtain ⟨t, -, ht⟩ := List.mem_map.mp hnote
    have hprefix : ¬ "a literal pattern matches only one value of `".toList <+:
        "an earlier arm already matches this pattern".toList := by decide
    exact hprefix (ht ▸ isPrefix_literalNote t)
  · cases hx

theorem otherNote_notMem_diagnose {ds : List Diagnostic} (h : a.diagnose m = .ok ds) (hx : x ∈ ds) :
    "an earlier arm already matches this pattern" ∉ x.notes := by
  rcases diagnose_eq_ok_iff.mp h with ⟨-, rfl⟩ | ⟨u, r, hreport, rfl⟩
  · cases hx
  · rcases List.mem_append.mp hx with hx | hx
    · exact otherNote_notMem_missingDiagnostics hx
    · by_cases hlevel : a.config.levels.unreachableArm = .off
      · simp [unreachableDiagnostics, hlevel, Level.severity?] at hx
      · obtain ⟨i, -, hreason⟩ := exists_of_mem_of_forall₂ (forall₂_givesReason hreport hlevel) hx
        exact otherNote_notMem_of_givesReason hreason

end Analyzer

/-! ## The notes on unreachable arms -/

/-- Where unreachable arms are reported, the diagnostics on them are on those arms that the check has
found, in their order, and each gives the reason why its arm is never chosen. No diagnostic of any
document has the note that is for other patterns. -/
theorem unreachable_notes_are_true :
    (∀ (a : Analyzer) (m : MatchExpr) (found : Option (UnionType × Coverage.Report TypeRef)),
      a.report m = .ok found → a.config.levels.unreachableArm ≠ .off →
      ∃ (ds : List Diagnostic) (indices : List Nat), a.diagnose m = .ok ds ∧
        indices = (found.map (·.2.unreachable)).getD [] ∧
        indices.Pairwise (· < ·) ∧ (∀ i ∈ indices, i < m.arms.length) ∧
        List.Forall₂ (GivesReason a.env m.arms) indices
          (ds.filter (·.kind = .unreachableArm))) ∧
    ∀ (config : Config) (d : Document) (ds : List Diagnostic), analyzeDocument config d = .ok ds →
      ∀ x ∈ ds, "an earlier arm already matches this pattern" ∉ x.notes := by
  constructor
  · intro a m found hreport hlevel
    cases found with
    | none =>
      have hdiagnose : a.diagnose m = .ok [] :=
        Analyzer.diagnose_eq_ok_iff.mpr (.inl ⟨hreport, rfl⟩)
      exact ⟨[], [], hdiagnose, rfl, .nil, by simp, .nil⟩
    | some ur =>
      obtain ⟨u, r⟩ := ur
      have hdiagnose := Analyzer.diagnose_eq_ok_iff.mpr (.inr ⟨u, r, hreport, rfl⟩)
      refine ⟨_, r.unreachable, hdiagnose, rfl, ?_, fun i hi => ?_, ?_⟩
      · obtain ⟨-, -, rfl⟩ := Analyzer.report_eq_some_iff.mp hreport
        exact Coverage.pairwise_unreachableArms
      · obtain ⟨arm, harm, -⟩ := Analyzer.shadowed_of_report hreport hi
        exact (List.getElem?_eq_some_iff.mp harm).1
      · rw [List.filter_append, Analyzer.filter_kind_missingDiagnostics, List.nil_append,
          Analyzer.filter_kind_unreachableDiagnostics]
        exact Analyzer.forall₂_givesReason hreport hlevel
  · intro config d ds h x hx
    obtain ⟨a, found, -, hfound, rfl⟩ := analyzeDocument_eq_ok_iff.mp h
    obtain ⟨m, -, xs, hxs, hx⟩ := exists_diagnose_of_mem hfound hx
    exact Analyzer.otherNote_notMem_diagnose hxs hx

/-- A literal comes after a test for its type under another name, and a test after a discard. -/
theorem unreachable_notes_are_true_of_alias :
    ∃ (d : Document) (a : Analyzer) (m : MatchExpr) (u : UnionType)
        (r : Coverage.Report TypeRef) (ds : List Diagnostic),
      d.aliases = [⟨"int", .named "Int32"⟩] ∧ d.expressions = [m] ∧
      m.arms.map (·.pattern) = [.typeTest (some (.named "int")) (some "n"),
        .literal (.int 0) (some (.named "Int32")), .typeTest none none, .discard,
        .typeTest (some (.named "string")) none] ∧
      Analyzer.ofDocument {} d = .ok a ∧ a.report m = .ok (some (u, r)) ∧
      a.config.levels.unreachableArm ≠ .off ∧ a.diagnose m = .ok ds ∧
      List.Forall₂ (GivesReason a.env m.arms) [1, 4] (ds.filter (·.kind = .unreachableArm)) ∧
      analyzeDocument {} d = .ok ds ∧
      ∀ x ∈ ds, "an earlier arm already matches this pattern" ∉ x.notes := by
  let m : MatchExpr := ⟨⟨"OneOf", [.named "Int32", .named "string"], false⟩, none,
    [⟨.typeTest (some (.named "int")) (some "n"), none, none⟩,
      ⟨.literal (.int 0) (some (.named "Int32")), none, none⟩, ⟨.typeTest none none, none, none⟩,
      ⟨.discard, none, none⟩, ⟨.typeTest (some (.named "string")) none, none, none⟩], none⟩
  let d : Document := ⟨none, [⟨"int", .named "Int32"⟩], [], [m]⟩
  let a : Analyzer := ⟨{}, ⟨[("int", .named "Int32")], true⟩, ⟨["OneOf"], []⟩⟩
  let u : UnionType := ⟨m.scrutinee, [.named "Int32", .named "string"]⟩
  have ha : Analyzer.ofDocument {} d = .ok a := by cbv
  have hreport : a.report m = .ok (some (u, ⟨.exhaustive, [1, 4], []⟩)) := rfl
  have hlevel : a.config.levels.unreachableArm ≠ .off := by decide
  obtain ⟨ds, indices, hdiagnose, rfl, -, -, hreasons⟩ :=
    unreachable_notes_are_true.1 a m _ hreport hlevel
  have hanalyze : analyzeDocument {} d = .ok ds := by
    rw [analyzeDocument_eq_ok_iff]
    exact ⟨a, [ds], ha, .cons hdiagnose .nil, by simp⟩
  exact ⟨d, a, m, u, _, ds, rfl, rfl, rfl, ha, hreport, hlevel, hdiagnose, hreasons, hanalyze,
    unreachable_notes_are_true.2 {} d ds hanalyze⟩

end MatchCover
