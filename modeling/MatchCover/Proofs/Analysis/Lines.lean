import MatchCover.Proofs.Analysis.Naming
import MatchCover.Proofs.Analysis.Reasons
import MatchCover.Proofs.Coverage.Covering
import MatchCover.Proofs.Diagnostic.Lines
import MatchCover.Proofs.Json.Numbers

/-!
# Names in lines

Messages, notes and the titles of fixes are put together from fixed words, numbers, literals and
types. Of these only a type can hold a line feed: the literals are quoted, but a type is written by
its names as they are. So the text of the diagnostics keeps its lines exactly if the types that they
show (`Analyzer.Shows`) have no line feed in a name (`plainText_keeps_lines_iff`).
-/

namespace MatchCover

/-! ## Types and literals -/

namespace TypeRef

/-- No name in the type holds a line feed. -/
def OneLine (t : TypeRef) : Prop := t.AllNames Text.OneLine

variable {t : TypeRef}

theorem OneLine.of_mem_args {arg : TypeRef} (h : t.OneLine) (harg : arg ∈ t.args) :
    arg.OneLine := by
  cases h with
  | mk _ hargs => exact hargs arg harg

theorem newline_notMem_moreChars {ts : List TypeRef} :
    '\n' ∉ moreChars ts ↔ ∀ t ∈ ts, '\n' ∉ t.chars := by
  induction ts with
  | nil => simp [moreChars]
  | cons t ts ih => simp [moreChars, ← ih]

theorem newline_notMem_argChars {ts : List TypeRef} :
    '\n' ∉ argChars ts ↔ ∀ t ∈ ts, '\n' ∉ t.chars := by
  cases ts with
  | nil => simp [argChars]
  | cons t ts => simp [argChars, newline_notMem_moreChars]

theorem newline_notMem_chars : '\n' ∉ t.chars ↔ t.OneLine := by
  induction t using argsInduction with
  | mk name args nullable ih =>
    have hmark : '\n' ∉ if nullable then ['?'] else [] := by cases nullable <;> decide
    rw [OneLine, allNames_mk, chars, List.mem_append, List.mem_append, not_or, not_or,
      newline_notMem_argChars, and_iff_left hmark]
    exact and_congr_right fun _ => forall₂_congr ih

/-- The notation of a type puts no line feed beside those of the names. -/
@[simp] theorem oneLine_display : Text.OneLine t.display ↔ t.OneLine := by
  rw [display, Text.oneLine_ofList, newline_notMem_chars]

instance : DecidablePred OneLine := fun _ => decidable_of_iff _ oneLine_display

end TypeRef

@[simp] theorem Literal.oneLine_display (l : Literal) : Text.OneLine l.display := by
  cases l with
  | bool value => cases value <;> decide
  | int value => exact Text.oneLine_toString_int value
  | float value =>
    rw [display, Text.oneLine_ofList]
    intro h
    exact absurd (Layout.isNumberChar_of_mem_write h) (by decide)
  | string value => exact Text.oneLine_quoted value.toList
  | null => decide

/-! ## Texts of diagnostics -/

theorem Coverage.oneLine_quotedName {name : String} :
    Text.OneLine (quotedName name) ↔ Text.OneLine name := by
  have hquote : Text.OneLine "`" := by decide
  simp [quotedName, hquote]

theorem Coverage.oneLine_summary {names : List String} :
    Text.OneLine (summary names) ↔ ∀ name ∈ names.take shownNames, Text.OneLine name := by
  have hcomma : Text.OneLine ", " := by decide
  have hand : Text.OneLine " and " := by decide
  have hmore : Text.OneLine " more" := by decide
  have hshown : Text.OneLine (", ".intercalate ((names.take shownNames).map quotedName)) ↔
      ∀ name ∈ names.take shownNames, Text.OneLine name := by
    rw [Text.oneLine_intercalate hcomma, List.forall_mem_map]
    simp only [oneLine_quotedName]
  unfold summary
  dsimp only
  split
  · simp only [Text.oneLine_append, hshown, hand, hmore, Nat.toString_eq_repr, Text.oneLine_repr,
      and_true]
  · exact hshown

theorem Fix.oneLine_title_suggest {m : MatchExpr} {missing : List TypeRef} {style : FixStyle} :
    Text.OneLine (suggest m missing style).title ↔
      (style.prefer = .arms → ∀ t ∈ missing, t.OneLine) := by
  unfold suggest
  split
  · next h =>
    have htitle : Text.OneLine "add a discard arm `_` to handle remaining cases" := by decide
    simp [h, htitle]
  · next h =>
    have hwords : Text.OneLine "add arms for " := by decide
    have hcomma : Text.OneLine ", " := by decide
    simp [h, hwords, Text.oneLine_intercalate hcomma, Coverage.oneLine_quotedName]

theorem SaysTested.oneLine_iff {pattern : Pattern} {t : TypeRef} {note : String}
    (h : SaysTested pattern t note) : Text.OneLine note ↔ t.OneLine := by
  have hwords : Text.OneLine "an earlier arm already matches every `" := by decide
  have hquote : Text.OneLine "`" := by decide
  have hincluding : Text.OneLine "`, including `" := by decide
  cases h with
  | typeTest => simp [hwords, hquote]
  | literal => simp [hwords, hquote, hincluding]

namespace Analyzer

variable {a : Analyzer} {m : MatchExpr} {u : UnionType} {r : Coverage.Report TypeRef}
  {missing : List TypeRef} {t : TypeRef} {env : Environment} {i : Nat} {arm : MatchArm}

theorem oneLine_literalNote : Text.OneLine (literalNote t) ↔ t.OneLine := by
  have hwords : Text.OneLine "a literal pattern matches only one value of `" := by decide
  have hadd : Text.OneLine "`; add a type pattern for `" := by decide
  have hquote : Text.OneLine "`" := by decide
  unfold literalNote
  simp [hwords, hadd, hquote]

/-- Where missing variants are reported, the message shows the type that is matched over and the
first of them, and the title of a fix by arms shows all. -/
theorem oneLine_missingDiagnostics_iff (hlevel : a.config.levels.missingCases ≠ .off)
    (hverdict : r.verdict = .missing missing) :
    (∀ x ∈ a.missingDiagnostics m u r, x.OneLine) ↔
      (u.type.OneLine ∧ ∀ t ∈ missing.take Coverage.shownNames, t.OneLine) ∧
        (∀ t ∈ r.literalOnly, t.OneLine) ∧
          (a.config.fixStyle.prefer = .arms → ∀ t ∈ missing, t.OneLine) := by
  obtain ⟨severity, hseverity⟩ := exists_severity?_iff.mpr hlevel
  have hmessage : Text.OneLine ("non-exhaustive match on `" ++ u.type.display ++ "`: " ++
      Coverage.summary (missing.map TypeRef.display) ++ " not covered") ↔
      u.type.OneLine ∧ ∀ t ∈ missing.take Coverage.shownNames, t.OneLine := by
    have hwords : Text.OneLine "non-exhaustive match on `" := by decide
    have hcolon : Text.OneLine "`: " := by decide
    have hcovered : Text.OneLine " not covered" := by decide
    simp only [Text.oneLine_append, Coverage.oneLine_summary, ← List.map_take, List.forall_mem_map,
      TypeRef.oneLine_display, hwords, hcolon, hcovered, and_true, true_and]
  have hnotes : (∀ note ∈ r.literalOnly.map literalNote, Text.OneLine note) ↔
      ∀ t ∈ r.literalOnly, t.OneLine := by
    simp only [List.forall_mem_map, oneLine_literalNote]
  simp only [missingDiagnostics, hseverity, hverdict, List.forall_mem_singleton]
  rw [← hmessage, ← hnotes, ← Fix.oneLine_title_suggest]
  constructor
  · rintro ⟨hmessage, hnotes, hfix⟩
    exact ⟨hmessage, hnotes, hfix _ rfl⟩
  · rintro ⟨hmessage, hnotes, hfix⟩
    refine ⟨hmessage, hnotes, ?_⟩
    rintro _ ⟨⟩
    exact hfix

/-- The note on a shadowed arm shows the type of the arm, unless it comes after a discard. -/
theorem oneLine_unreachableDiagnostic_iff (severity : Severity)
    (hs : Coverage.Shadowed env.canonical ((m.arms.map (·.pattern.coverageArm)).take i)
      arm.pattern.coverageArm) :
    (unreachableDiagnostic m severity i arm).OneLine ↔
      (¬ AfterDiscard m.arms i → ∀ t ∈ arm.pattern.coverageArm.type?, t.OneLine) := by
  have hmessage : Text.OneLine
      "unreachable match arm: previous arms already cover this pattern" := by decide
  have hnote : (unreachableDiagnostic m severity i arm).OneLine ↔ Text.OneLine
      (unreachableReason arm.pattern i (m.arms.findIdx? (·.pattern.isDiscard))) := by
    constructor
    · rintro ⟨-, hnotes, -⟩
      exact hnotes _ (List.mem_singleton_self _)
    · intro hnote
      exact ⟨hmessage, List.forall_mem_singleton.mpr hnote, nofun⟩
  rw [hnote]
  by_cases hd : AfterDiscard m.arms i
  · have hreason : Text.OneLine "an earlier discard arm matches every value" := by decide
    rw [unreachableReason_of_afterDiscard hd]
    exact iff_of_true hreason fun h => absurd hd h
  · obtain ⟨t, ht, -⟩ := (shadowed_coverageArms hs).resolve_left hd
    rw [(saysTested_unreachableReason hd ht).oneLine_iff, ht]
    simp [hd]

theorem oneLine_unreachableDiagnostics_iff (hlevel : a.config.levels.unreachableArm ≠ .off)
    (hreport : a.report m = .ok (some (u, r))) :
    (∀ x ∈ a.unreachableDiagnostics m r, x.OneLine) ↔
      ∀ i ∈ r.unreachable, ∀ arm ∈ m.arms[i]?, ¬ AfterDiscard m.arms i →
        ∀ t ∈ arm.pattern.coverageArm.type?, t.OneLine := by
  obtain ⟨severity, hseverity⟩ := exists_severity?_iff.mpr hlevel
  have hone {i : Nat} {arm : MatchArm} (hi : i ∈ r.unreachable) (harm : m.arms[i]? = some arm) :
      (unreachableDiagnostic m severity i arm).OneLine ↔
        (¬ AfterDiscard m.arms i → ∀ t ∈ arm.pattern.coverageArm.type?, t.OneLine) := by
    obtain ⟨arm', harm', hs⟩ := shadowed_of_report hreport hi
    obtain rfl : arm' = arm := Option.some.inj (harm'.symm.trans harm)
    exact oneLine_unreachableDiagnostic_iff severity hs
  simp only [unreachableDiagnostics, hseverity]
  constructor
  · intro h i hi arm harm
    refine (hone hi harm).mp (h _ (List.mem_filterMap.mpr ⟨i, hi, ?_⟩))
    rw [Option.mem_def.mp harm, Option.map_some]
  · intro h x hx
    obtain ⟨i, hi, hx⟩ := List.mem_filterMap.mp hx
    obtain ⟨arm, harm, rfl⟩ := Option.map_eq_some_iff.mp hx
    exact (hone hi harm).mpr (h i hi arm harm)

/-! ## The types that are shown -/

/-- The diagnostics on a match show the type. -/
inductive Shows (a : Analyzer) (m : MatchExpr) : TypeRef → Prop where
  /-- Where variants are missing, the message starts with the type that is matched over. -/
  | scrutinee {missing : List TypeRef} : a.missing? m = some missing → Shows a m m.scrutinee
  /-- The message has the first missing variants. -/
  | missing {missing : List TypeRef} {t : TypeRef} :
    a.missing? m = some missing → t ∈ missing.take Coverage.shownNames → Shows a m t
  /-- A fix by arms has all missing variants. -/
  | fix {missing : List TypeRef} {t : TypeRef} :
    a.missing? m = some missing → a.config.fixStyle.prefer = .arms → t ∈ missing → Shows a m t
  /-- There is a note on a missing variant that only literals touch. -/
  | literalOnly {missing : List TypeRef} {u : UnionType} {r : Coverage.Report TypeRef}
    {t : TypeRef} :
    a.missing? m = some missing → a.report m = .ok (some (u, r)) → t ∈ r.literalOnly → Shows a m t
  /-- The note on an arm that is never chosen has its type, if no discard comes before. -/
  | unreachable {u : UnionType} {r : Coverage.Report TypeRef} {i : Nat} {arm : MatchArm}
    {t : TypeRef} :
    a.config.levels.unreachableArm ≠ .off → a.report m = .ok (some (u, r)) → i ∈ r.unreachable →
    m.arms[i]? = some arm → ¬ AfterDiscard m.arms i → t ∈ arm.pattern.coverageArm.type? →
    Shows a m t

theorem not_shows_of_report (h : a.report m = .ok none) : ¬ a.Shows m t := by
  have hmissing : a.missing? m = none := by simp [missing?, h]
  intro hshows
  cases hshows with
  | scrutinee hm => simp [hmissing] at hm
  | missing hm => simp [hmissing] at hm
  | fix hm => simp [hmissing] at hm
  | literalOnly hm => simp [hmissing] at hm
  | unreachable _ hreport => simp [h] at hreport

theorem missing?_of_report (h : a.report m = .ok (some (u, r))) : a.missing? m = some missing ↔
    a.config.levels.missingCases ≠ .off ∧ r.verdict = .missing missing := by
  rw [missing?_eq_some_iff]
  refine and_congr_right fun _ => ?_
  constructor
  · rintro ⟨u', r', h', hverdict⟩
    rw [h] at h'
    cases h'
    exact hverdict
  · intro hverdict
    exact ⟨u, r, h, hverdict⟩

theorem missingDiagnostics_eq_nil (h : a.report m = .ok (some (u, r)))
    (hmissing : a.missing? m = none) : a.missingDiagnostics m u r = [] := by
  unfold missingDiagnostics
  split
  · next hseverity hverdict =>
    have hlevel : a.config.levels.missingCases ≠ .off := exists_severity?_iff.mp ⟨_, hseverity⟩
    rw [(missing?_of_report h).mpr ⟨hlevel, hverdict⟩] at hmissing
    cases hmissing
  · rfl

theorem unreachableDiagnostics_eq_nil (h : a.config.levels.unreachableArm = .off) :
    a.unreachableDiagnostics m r = [] := by
  rw [unreachableDiagnostics, h]
  rfl

/-- A match is over its own type, and the variants are those of a declared union or the arguments of
the type, as they are spelled or canonical. -/
theorem unionOf_cases (h : a.unionOf m = .ok (some u)) :
    u.type = m.scrutinee ∧ ((∃ d ∈ a.registry.declared, u.variants = d.variants) ∨
      u.variants = m.scrutinee.args ∨ u.variants = (a.env.canonical m.scrutinee).args) := by
  unfold unionOf at h
  split at h
  · obtain ⟨d, hd, h⟩ := bind_eq_ok.mp h
    obtain rfl := Option.some.inj (Except.ok.inj h)
    refine ⟨rfl, .inl ⟨d, ?_, rfl⟩⟩
    unfold Registry.lookup at hd
    split at hd
    · next hfind =>
      obtain rfl := Except.ok.inj hd
      exact List.mem_of_find?_eq_some hfind
    · cases hd
  · have h : a.registry.resolve a.env m.scrutinee = some u := Except.ok.inj h
    refine ⟨type_of_resolve h, ?_⟩
    by_cases hargs : (a.env.canonical m.scrutinee).args = []
    · rw [Registry.resolve_of_name hargs] at h
      obtain ⟨d, hfind, rfl⟩ := Option.map_eq_some_iff.mp h
      exact .inl ⟨d, List.mem_of_find?_eq_some hfind, rfl⟩
    · rw [Registry.resolve_of_args hargs] at h
      split at h
      · obtain rfl := Option.some.inj h
        dsimp only
        split
        · exact .inr (.inl rfl)
        · exact .inr (.inr rfl)
      · cases h

/-- The texts of the diagnostics on a match are as free of line feeds as the types in them. -/
theorem oneLine_diagnose_iff {ds : List Diagnostic} (h : a.diagnose m = .ok ds) :
    (∀ x ∈ ds, x.OneLine) ↔ ∀ t, a.Shows m t → t.OneLine := by
  rcases diagnose_eq_ok_iff.mp h with ⟨hreport, rfl⟩ | ⟨u, r, hreport, rfl⟩
  · exact iff_of_true (by simp) fun t ht => absurd ht (not_shows_of_report hreport)
  have htype : u.type = m.scrutinee := (unionOf_cases (report_eq_some_iff.mp hreport).2.1).1
  rw [List.forall_mem_append]
  constructor
  · rintro ⟨hmissing, hunreachable⟩ t ht
    have hparts {missing : List TypeRef} (h : a.missing? m = some missing) :=
      have ⟨hlevel, hverdict⟩ := (missing?_of_report hreport).mp h
      (oneLine_missingDiagnostics_iff hlevel hverdict).mp hmissing
    cases ht with
    | scrutinee h => exact htype ▸ (hparts h).1.1
    | missing h ht => exact (hparts h).1.2 t ht
    | fix h hprefer ht => exact (hparts h).2.2 hprefer t ht
    | literalOnly h hreport' ht =>
      rw [hreport] at hreport'
      cases hreport'
      exact (hparts h).2.1 t ht
    | unreachable hlevel hreport' hi harm hd ht =>
      rw [hreport] at hreport'
      cases hreport'
      exact (oneLine_unreachableDiagnostics_iff hlevel hreport).mp hunreachable _ hi _ harm hd t ht
  · intro hshows
    constructor
    · cases hm : a.missing? m with
      | none => simp [missingDiagnostics_eq_nil hreport hm]
      | some missing =>
        obtain ⟨hlevel, hverdict⟩ := (missing?_of_report hreport).mp hm
        refine (oneLine_missingDiagnostics_iff hlevel hverdict).mpr ⟨⟨?_, ?_⟩, ?_, ?_⟩
        · exact htype ▸ hshows _ (.scrutinee hm)
        · exact fun t ht => hshows t (.missing hm ht)
        · exact fun t ht => hshows t (.literalOnly hm hreport ht)
        · exact fun hprefer t ht => hshows t (.fix hm hprefer ht)
    · by_cases hlevel : a.config.levels.unreachableArm = .off
      · simp [unreachableDiagnostics_eq_nil hlevel]
      · exact (oneLine_unreachableDiagnostics_iff hlevel hreport).mpr
          fun i hi arm harm hd t ht => hshows t (.unreachable hlevel hreport hi harm hd ht)

end Analyzer

/-! ## The types of a document -/

inductive Document.HasType (d : Document) : TypeRef → Prop where
  | target {b : AliasDecl} : b ∈ d.aliases → HasType d b.target
  | variant {u : UnionDecl} {t : TypeRef} : u ∈ d.unions → t ∈ u.variants → HasType d t
  | scrutinee {m : MatchExpr} : m ∈ d.expressions → HasType d m.scrutinee
  | pattern {m : MatchExpr} {arm : MatchArm} {t : TypeRef} :
    m ∈ d.expressions → arm ∈ m.arms → t ∈ arm.pattern.coverageArm.type? → HasType d t

namespace Analyzer

variable {config : Config} {d : Document} {a : Analyzer} {m : MatchExpr} {u : UnionType}
  {t : TypeRef}

theorem oneLine_canonical (ha : ofDocument config d = .ok a)
    (hconfig : ∀ b ∈ config.aliases, b.2.OneLine) (hd : ∀ t, d.HasType t → t.OneLine)
    (ht : t.OneLine) : (a.env.canonical t).OneLine := by
  obtain ⟨-, henv, -, -⟩ := ofDocument_eq_ok_iff.mp ha
  obtain ⟨hac, henv⟩ := Environment.ofAliases_eq_ok_iff.mp henv
  rw [henv]
  refine Environment.allNames_canonical hac (fun n target htarget => ?_) ht
  rcases List.mem_append.mp (AliasTable.mem_of_target?_eq_some htarget) with hb | hb
  · exact hconfig _ hb
  · obtain ⟨b, hmem, heq⟩ := List.mem_map.mp hb
    cases heq
    exact hd _ (.target hmem)

theorem oneLine_variants (ha : ofDocument config d = .ok a)
    (hconfig : ∀ b ∈ config.aliases, b.2.OneLine) (hd : ∀ t, d.HasType t → t.OneLine)
    (hm : m ∈ d.expressions) (hu : a.unionOf m = .ok (some u)) : ∀ t ∈ u.variants, t.OneLine := by
  have hscrutinee : m.scrutinee.OneLine := hd _ (.scrutinee hm)
  intro t ht
  rcases (unionOf_cases hu).2 with ⟨decl, hdecl, heq⟩ | heq | heq
  · obtain ⟨-, -, hregistry, -⟩ := ofDocument_eq_ok_iff.mp ha
    obtain ⟨-, -, hregistry⟩ := Registry.ofDecls_eq_ok_iff.mp hregistry
    rw [hregistry] at hdecl
    exact hd t (.variant hdecl (heq ▸ ht))
  · exact hscrutinee.of_mem_args (heq ▸ ht)
  · exact (oneLine_canonical ha hconfig hd hscrutinee).of_mem_args (heq ▸ ht)

/-- The types that are shown come from the document and the targets of aliases. -/
theorem oneLine_of_shows (ha : ofDocument config d = .ok a)
    (hconfig : ∀ b ∈ config.aliases, b.2.OneLine) (hd : ∀ t, d.HasType t → t.OneLine)
    (hm : m ∈ d.expressions) (h : a.Shows m t) : t.OneLine := by
  have huncovered {u : UnionType} {arms : List (Coverage.Arm TypeRef)}
      (hu : a.unionOf m = .ok (some u)) :
      ∀ t ∈ Coverage.uncovered a.env.canonical u.variants arms, t.OneLine := fun t ht =>
    oneLine_variants ha hconfig hd hm hu t
      ((Coverage.firstOfEach_sublist _ _).subset (Coverage.mem_uncovered.mp ht).1)
  have hmissing {missing : List TypeRef} (h : a.missing? m = some missing) :
      ∀ t ∈ missing, t.OneLine := by
    obtain ⟨-, u, r, hreport, hverdict⟩ := missing?_eq_some_iff.mp h
    obtain ⟨-, hu, rfl⟩ := report_eq_some_iff.mp hreport
    obtain ⟨rfl, -⟩ := Coverage.check_eq_missing_iff.mp hverdict
    exact huncovered hu
  cases h with
  | scrutinee => exact hd _ (.scrutinee hm)
  | missing h ht => exact hmissing h t (List.mem_of_mem_take ht)
  | fix h _ ht => exact hmissing h t ht
  | literalOnly _ hreport ht =>
    obtain ⟨-, hu, rfl⟩ := report_eq_some_iff.mp hreport
    have hpart : t ∈ Coverage.literalOnly _ _ _ := ht
    rw [Coverage.literalOnly_eq_filter_uncovered] at hpart
    exact huncovered hu t (List.mem_filter.mp hpart).1
  | unreachable _ _ _ harm _ ht => exact hd t (.pattern hm (List.mem_of_getElem? harm) ht)

end Analyzer

namespace Diagnostic

variable {config : Config} {d : Document} {ds : List Diagnostic} {filename : String}

theorem oneLine_analyzeDocument_iff (h : analyzeDocument config d = .ok ds) :
    (∀ x ∈ ds, x.OneLine) ↔ ∃ a, Analyzer.ofDocument config d = .ok a ∧
      ∀ m ∈ d.expressions, ∀ t, a.Shows m t → t.OneLine := by
  obtain ⟨a, found, ha, hfound, rfl⟩ := analyzeDocument_eq_ok_iff.mp h
  constructor
  · intro hone
    refine ⟨a, ha, fun m hm => ?_⟩
    obtain ⟨xs, -, hxs⟩ := exists_of_mem_of_forall₂ hfound.flip hm
    exact (Analyzer.oneLine_diagnose_iff hxs).mp fun x hx =>
      hone x ((mem_flatten_iff_of_diagnose hfound).mpr ⟨m, hm, xs, hxs, hx⟩)
  · rintro ⟨a', ha', hshows⟩ x hx
    rw [ha] at ha'
    cases ha'
    obtain ⟨m, hm, xs, hxs, hx⟩ := exists_diagnose_of_mem hfound hx
    exact (Analyzer.oneLine_diagnose_iff hxs).mpr (hshows m hm) x hx

/-- The text keeps its lines exactly if none of the types that the diagnostics show has a line feed
in a name; its lines are then those of the diagnostics. That is so for any literals and any source,
if neither a type of the document nor the target of a configured alias has one. -/
theorem plainText_keeps_lines_iff (h : analyzeDocument config d = .ok ds)
    (hf : Text.OneLine filename) (source : Option String) :
    (KeepsLines ds (plainText ds filename source) ↔
      ∃ a, Analyzer.ofDocument config d = .ok a ∧
        ∀ m ∈ d.expressions, ∀ t, a.Shows m t → t.OneLine) ∧
    (KeepsLines ds (plainText ds filename source) →
      Text.ConsistsOf (plainText ds filename source)
        (ds.flatMap (·.plainLines filename source))) ∧
    ((∀ b ∈ config.aliases, b.2.OneLine) → (∀ t, d.HasType t → t.OneLine) →
      KeepsLines ds (plainText ds filename source)) := by
  have hkeeps : KeepsLines ds (plainText ds filename source) ↔ ∀ x ∈ ds, x.OneLine :=
    keepsLines_plainText_iff hf
  have hone := oneLine_analyzeDocument_iff h
  refine ⟨hkeeps.trans hone, keepsLines_plainText_iff_consistsOf.mp, fun hconfig hd => ?_⟩
  rw [hkeeps, hone]
  obtain ⟨a, -, ha, -, -⟩ := analyzeDocument_eq_ok_iff.mp h
  exact ⟨a, ha, fun m hm t ht => Analyzer.oneLine_of_shows ha hconfig hd hm ht⟩

/-- The last of the missing variants has a line feed in its name and is only counted, and a literal
with a line feed is shown. -/
theorem plainText_keeps_lines_iff_of_hidden_name :
    ∃ (config : Config) (d : Document) (ds : List Diagnostic),
      config.fixStyle.prefer = .discard ∧ d.HasType (.named "E\nF") ∧
      .string "x\ny" ∈ d.literals ∧ analyzeDocument config d = .ok ds ∧ ds.length = 2 ∧
      Text.OneLine "a.cs" ∧ KeepsLines ds (plainText ds "a.cs" (some "x\ny")) ∧
      Text.ConsistsOf (plainText ds "a.cs" (some "x\ny"))
        (ds.flatMap (·.plainLines "a.cs" (some "x\ny"))) := by
  let config : Config := { fixStyle := { prefer := .discard } }
  let m : MatchExpr := ⟨.named "U", none,
    [⟨.typeTest (some (.named "A")) none, none, none⟩,
      ⟨.literal (.string "x\ny") (some (.named "A")), none, none⟩], some ⟨2, 3⟩⟩
  let u : UnionDecl :=
    ⟨"U", [.named "A", .named "B", .named "C", .named "D", .named "E\nF"], none⟩
  let d : Document := ⟨none, [], [u], [m]⟩
  let a : Analyzer := ⟨config, {}, ⟨["OneOf"], [u]⟩⟩
  let r : Coverage.Report TypeRef :=
    ⟨.missing [.named "B", .named "C", .named "D", .named "E\nF"], [1], []⟩
  have ha : Analyzer.ofDocument config d = .ok a := by cbv
  have hreport : a.report m = .ok (some (⟨.named "U", u.variants⟩, r)) := rfl
  have hshows : ∀ t, a.Shows m t → t.OneLine := by
    intro t ht
    cases ht with
    | scrutinee => decide
    | missing h ht =>
      obtain ⟨-, hverdict⟩ := (Analyzer.missing?_of_report hreport).mp h
      cases hverdict
      exact (by decide : ∀ t ∈ [.named "B", .named "C", .named "D"], TypeRef.OneLine t) t ht
    | fix _ hprefer => cases hprefer
    | literalOnly _ hreport' ht =>
      rw [hreport] at hreport'
      cases hreport'
      cases ht
    | unreachable _ hreport' hi harm _ ht =>
      rw [hreport] at hreport'
      cases hreport'
      cases List.mem_singleton.mp hi
      cases harm
      cases ht
      decide
  obtain ⟨ds, hdiagnose, hlength⟩ : ∃ ds, a.diagnose m = .ok ds ∧ ds.length = 2 := ⟨_, rfl, rfl⟩
  have hanalyze : analyzeDocument config d = .ok ds := by
    rw [analyzeDocument_eq_ok_iff]
    exact ⟨a, [ds], ha, .cons hdiagnose .nil, by simp⟩
  have hf : Text.OneLine "a.cs" := by decide
  obtain ⟨hkeeps, hlines, -⟩ := plainText_keeps_lines_iff hanalyze hf (some "x\ny")
  have hkeeps := hkeeps.mpr ⟨a, ha, List.forall_mem_singleton.mpr hshows⟩
  have htype : d.HasType (.named "E\nF") := .variant (List.mem_singleton_self u) (by decide)
  exact ⟨config, d, ds, rfl, htype, by decide, hanalyze, hlength, hf, hkeeps, hlines hkeeps⟩

/-- A variant is written with the line feed in its name, which breaks both lines. -/
theorem plainText_breaks_lines :
    ∃ (text : String) (d : Document) (ds : List Diagnostic),
      text = "\x7b\"matches\": [\x7b\"scrutinee\": \x7b\"name\": \"OneOf\", \"args\": [\"A\", " ++
        "\x7b\"name\": \"B\\nC\"\x7d]\x7d, \"arms\": [\x7b\"pattern\": \x7b\"kind\": " ++
        "\"type_test\", \"ty\": \"A\"\x7d\x7d]\x7d]\x7d" ∧
      Document.ofJsonText? text = some d ∧ analyzeDocument {} d = .ok ds ∧ Text.OneLine "a.cs" ∧
      plainText ds "a.cs" none =
        "a.cs: error[UC0001]: non-exhaustive match on `OneOf<A, B\nC>`: `B\nC` not covered\n" ++
          "  help: add arms for `B\nC`\n" ∧
      ¬ KeepsLines ds (plainText ds "a.cs" none) := by
  let m : MatchExpr := ⟨⟨"OneOf", [.named "A", .named "B\nC"], false⟩, none,
    [⟨.typeTest (some (.named "A")) none, none, none⟩], none⟩
  let d : Document := ⟨none, [], [], [m]⟩
  let a : Analyzer := ⟨{}, {}, ⟨["OneOf"], []⟩⟩
  let u : UnionType := ⟨m.scrutinee, [.named "A", .named "B\nC"]⟩
  let r : Coverage.Report TypeRef := ⟨.missing [.named "B\nC"], [], []⟩
  let text : String := "\x7b\"matches\": [\x7b\"scrutinee\": \x7b\"name\": \"OneOf\", " ++
    "\"args\": [\"A\", \x7b\"name\": \"B\\nC\"\x7d]\x7d, \"arms\": [\x7b\"pattern\": " ++
    "\x7b\"kind\": \"type_test\", \"ty\": \"A\"\x7d\x7d]\x7d]\x7d"
  let ds : List Diagnostic := a.missingDiagnostics m u r
  have hread : Document.ofJsonText? text = some d := by decide +kernel
  have ha : Analyzer.ofDocument {} d = .ok a := by cbv
  have hreport : a.report m = .ok (some (u, r)) := rfl
  have hdiagnose : a.diagnose m = .ok ds :=
    Analyzer.diagnose_eq_ok_iff.mpr (.inr ⟨u, r, hreport, rfl⟩)
  have hanalyze : analyzeDocument {} d = .ok ds := by
    rw [analyzeDocument_eq_ok_iff]
    exact ⟨a, [ds], ha, .cons hdiagnose .nil, rfl⟩
  have hf : Text.OneLine "a.cs" := by decide
  have hmissing : a.missing? m = some [.named "B\nC"] := rfl
  refine ⟨text, d, ds, by decide +kernel, hread, hanalyze, hf, by decide +kernel, fun hkeeps => ?_⟩
  have hshows := (Analyzer.oneLine_diagnose_iff hdiagnose).mp
    ((keepsLines_plainText_iff hf).mp hkeeps)
  exact absurd (hshows _ (.scrutinee hmissing)) (by decide)

end Diagnostic

end MatchCover
