import MatchCover.Proofs.Snapshot.Patterns

/-!
# Writing and reading snapshots

Every part of a snapshot is read back as it was written if it nests no deeper than there is room
for (`Document.ofJson?_toJson`).
-/

namespace MatchCover

open Json

/-! ## Declarations -/

theorem AliasDecl.ofJson?_toJson (room : Nat) (a : AliasDecl) :
    AliasDecl.ofJson? room a.toJson = if a.toJson.depth ≤ room then some a else none := by
  have hfields : record? ["name", "target"] a.toJson =
      some [some (ofString a.name), some a.target.toJson] := record?_ofFields rfl (by decide)
  have hname : string? (ofString a.name) = some a.name := Piece.string?_ofString a.name
  have htarget := a.target.two_le_depth_toJson
  have hdepth : a.toJson.depth = a.target.toJson.depth + 1 := by
    simp [toJson, depth_ofFields, depthOfItems, depth_ofString]
  rw [ofJson?, hfields]
  simp only [Option.bind_eq_bind, Option.bind_some, required?, hname, TypeRef.ofJson?_toJson]
  split_ifs <;> first | rfl | omega

theorem AliasDecl.plain_toJson (a : AliasDecl) : a.toJson.Plain :=
  plain_ofFields (by simp [plain_ofString, a.target.plain_toJson])

theorem optional?_span {s : Option Span} (h : ∀ x ∈ s, x.InRange) :
    optional? Span.ofJson? (some (ofOption Span.toJson s)) = some s :=
  optional?_ofOption nofun fun x hx => Span.ofJson?_toJson (h x hx)

theorem UnionDecl.ofJson?_toJson {room : Nat} (hroom : 2 ≤ room) {u : UnionDecl}
    (hspan : ∀ s ∈ u.span, s.InRange) :
    UnionDecl.ofJson? room u.toJson = if u.toJson.depth ≤ room then some u else none := by
  have hfields : record? ["name", "variants", "span"] u.toJson =
      some [some (ofString u.name), some (array (u.variants.map TypeRef.toJson)),
        some (ofOption Span.toJson u.span)] := record?_ofFields rfl (by decide)
  have hname : string? (ofString u.name) = some u.name := Piece.string?_ofString u.name
  have hvariants := list?_map TypeRef.toJson u.variants fun t _ => t.ofJson?_toJson (room - 2)
  have hdepthSpan := depth_ofOption_le (fun s : Span => s.depth_toJson.le) u.span
  have hdepth : u.toJson.depth = max (depthOfItems (u.variants.map TypeRef.toJson) + 1)
      (ofOption Span.toJson u.span).depth + 1 := by
    simp [toJson, depth_ofFields, depthOfItems, depth_ofString, depth]
  rw [ofJson?, hfields]
  simp only [Option.bind_eq_bind, Option.bind_some, required?, hname, hvariants,
    optional?_span hspan]
  split_ifs <;> first | rfl | omega

theorem plain_optionSpan (s : Option Span) : (ofOption Span.toJson s).Plain :=
  plain_ofOption fun s _ => s.plain_toJson

theorem UnionDecl.plain_toJson (u : UnionDecl) : u.toJson.Plain := by
  have hvariants : (array (u.variants.map TypeRef.toJson)).Plain :=
    .array (by simp [TypeRef.plain_toJson])
  exact plain_ofFields (by simp [plain_ofString, hvariants, plain_optionSpan])

/-! ## Matches -/

def MatchArm.Faithful (a : MatchArm) : Prop := a.pattern.Faithful ∧ ∀ s ∈ a.span, s.InRange

theorem MatchArm.ofJson?_toJson (room : Nat) {a : MatchArm} (h : a.Faithful) :
    MatchArm.ofJson? room a.toJson = if a.toJson.depth ≤ room then some a else none := by
  have hfields : record? ["pattern", "result", "span"] a.toJson =
      some [some a.pattern.toJson, some (ofOption ofString a.result),
        some (ofOption Span.toJson a.span)] := record?_ofFields rfl (by decide)
  have hdepthPattern := a.pattern.one_le_depth_toJson
  have hdepthResult := depth_ofOption_le (fun s => (depth_ofString s).le) a.result
  have hdepthSpan := depth_ofOption_le (fun s : Span => s.depth_toJson.le) a.span
  have hdepth : a.toJson.depth = max a.pattern.toJson.depth
      (max (ofOption ofString a.result).depth (ofOption Span.toJson a.span).depth) + 1 := by
    simp [toJson, depth_ofFields, depthOfItems]
  rw [ofJson?, hfields]
  simp only [Option.bind_eq_bind, Option.bind_some, required?, Pattern.ofJson?_toJson _ h.1,
    optional?_string, optional?_span h.2]
  split_ifs <;> first | rfl | omega

theorem MatchArm.plain_toJson {a : MatchArm} (h : a.Faithful) : a.toJson.Plain :=
  plain_ofFields (by simp [Pattern.plain_toJson h.1, plain_optionString, plain_optionSpan])

def MatchExpr.Faithful (m : MatchExpr) : Prop :=
  (∀ a ∈ m.arms, a.Faithful) ∧ ∀ s ∈ m.span, s.InRange

theorem MatchExpr.ofJson?_toJson (room : Nat) {m : MatchExpr} (h : m.Faithful) :
    MatchExpr.ofJson? room m.toJson = if m.toJson.depth ≤ room then some m else none := by
  have hfields : record? ["scrutinee", "union", "arms", "span"] m.toJson =
      some [some m.scrutinee.toJson, some (ofOption ofString m.union),
        some (array (m.arms.map MatchArm.toJson)), some (ofOption Span.toJson m.span)] :=
    record?_ofFields rfl (by decide)
  have harms := list?_map MatchArm.toJson m.arms fun a ha =>
    MatchArm.ofJson?_toJson (room - 2) (h.1 a ha)
  have hdepthScrutinee := m.scrutinee.two_le_depth_toJson
  have hdepthUnion := depth_ofOption_le (fun s => (depth_ofString s).le) m.union
  have hdepthSpan := depth_ofOption_le (fun s : Span => s.depth_toJson.le) m.span
  have hdepth : m.toJson.depth = max m.scrutinee.toJson.depth
      (max (ofOption ofString m.union).depth (max (depthOfItems (m.arms.map MatchArm.toJson) + 1)
        (ofOption Span.toJson m.span).depth)) + 1 := by
    simp [toJson, depth_ofFields, depthOfItems, depth]
  rw [ofJson?, hfields]
  simp only [Option.bind_eq_bind, Option.bind_some, required?, TypeRef.ofJson?_toJson, harms,
    optional?_string, optional?_span h.2]
  split_ifs <;> first | rfl | omega

theorem MatchExpr.plain_toJson {m : MatchExpr} (h : m.Faithful) : m.toJson.Plain := by
  have harms : (array (m.arms.map MatchArm.toJson)).Plain :=
    .array (by simpa using fun a ha => MatchArm.plain_toJson (h.1 a ha))
  exact plain_ofFields (by
    simp [m.scrutinee.plain_toJson, plain_optionString, harms, plain_optionSpan])

/-! ## Documents -/

namespace Document

variable {d : Document}

/-- The literals and the spans of a document are kept by a text. -/
def Faithful (d : Document) : Prop :=
  (∀ l ∈ d.literals, l.Faithful) ∧ ∀ s ∈ d.spans, s.InRange

theorem Faithful.inRange_union (h : d.Faithful) {u : UnionDecl} (hu : u ∈ d.unions) :
    ∀ s ∈ u.span, s.InRange :=
  fun s hs => h.2 s (mem_spans.mpr (.inl ⟨u, hu, hs⟩))

theorem Faithful.expression (h : d.Faithful) {m : MatchExpr} (hm : m ∈ d.expressions) :
    m.Faithful := by
  refine ⟨fun a ha => ⟨fun l hl => ?_, fun s hs => ?_⟩, fun s hs => ?_⟩
  · exact h.1 l (mem_literals.mpr ⟨m, hm, a, ha, hl⟩)
  · exact h.2 s (mem_spans.mpr (.inr ⟨m, hm, .inr ⟨a, ha, hs⟩⟩))
  · exact h.2 s (mem_spans.mpr (.inr ⟨m, hm, .inl hs⟩))

/-- A document is read back from its value if that nests no deeper than the limit. -/
theorem ofJson?_toJson (h : d.Faithful) :
    Document.ofJson? d.toJson = if d.toJson.depth ≤ depthLimit then some d else none := by
  have hfields : record? ["source", "aliases", "unions", "matches"] d.toJson =
      some [some (ofOption ofString d.source), some (array (d.aliases.map AliasDecl.toJson)),
        some (array (d.unions.map UnionDecl.toJson)),
        some (array (d.expressions.map MatchExpr.toJson))] := record?_ofFields rfl (by decide)
  have hroom : 2 ≤ depthLimit - 2 := by decide
  have haliases := list?_map AliasDecl.toJson d.aliases fun a _ =>
    a.ofJson?_toJson (depthLimit - 2)
  have hunions := list?_map UnionDecl.toJson d.unions fun u hu =>
    UnionDecl.ofJson?_toJson hroom (h.inRange_union hu)
  have hexpressions := list?_map MatchExpr.toJson d.expressions fun m hm =>
    MatchExpr.ofJson?_toJson (depthLimit - 2) (h.expression hm)
  have hdepthSource := depth_ofOption_le (fun s => (depth_ofString s).le) d.source
  have hdepth : d.toJson.depth = max (ofOption ofString d.source).depth
      (max (depthOfItems (d.aliases.map AliasDecl.toJson) + 1)
        (max (depthOfItems (d.unions.map UnionDecl.toJson) + 1)
          (depthOfItems (d.expressions.map MatchExpr.toJson) + 1))) + 1 := by
    simp [toJson, depth_ofFields, depthOfItems, depth]
  rw [ofJson?, hfields]
  simp only [Option.bind_eq_bind, Option.bind_some, listOrEmpty?, Option.elim_some, haliases,
    hunions, hexpressions, optional?_string]
  have hlimit : depthLimit = 127 := rfl
  split_ifs <;> first | rfl | omega

theorem plain_toJson (h : d.Faithful) : d.toJson.Plain := by
  have haliases : (array (d.aliases.map AliasDecl.toJson)).Plain :=
    .array (by simp [AliasDecl.plain_toJson])
  have hunions : (array (d.unions.map UnionDecl.toJson)).Plain :=
    .array (by simp [UnionDecl.plain_toJson])
  have hexpressions : (array (d.expressions.map MatchExpr.toJson)).Plain :=
    .array (by simpa using fun m hm => MatchExpr.plain_toJson (h.expression hm))
  exact plain_ofFields (by simp [plain_optionString, haliases, hunions, hexpressions])

end Document

/-! ## Snapshots that are read -/

theorem optional?_span_inRange {field : Option Json} {s : Option Span}
    (h : optional? Span.ofJson? field = some s) : ∀ x ∈ s, x.InRange := by
  intro x hx
  obtain ⟨j, hj⟩ := exists_of_optional?_eq_some h hx
  exact Span.inRange_of_ofJson? hj

theorem UnionDecl.inRange_of_ofJson? {room : Nat} {j : Json} {u : UnionDecl}
    (h : UnionDecl.ofJson? room j = some u) : ∀ s ∈ u.span, s.InRange := by
  obtain ⟨fields, -, h⟩ := Option.bind_eq_some_iff.mp h
  split at h
  · simp only [Option.bind_eq_bind, Option.bind_eq_some_iff] at h
    obtain ⟨name, -, variants, -, span, hspan, h⟩ := h
    cases h
    exact optional?_span_inRange hspan
  · cases h

/-- The literal of an arm that is read was read from a value. -/
theorem MatchArm.exists_of_ofJson? {room : Nat} {j : Json} {a : MatchArm}
    (h : MatchArm.ofJson? room j = some a) :
    (∀ l ∈ a.pattern.literal?, ∃ value, Literal.ofJson? value = some l) ∧
      ∀ s ∈ a.span, s.InRange := by
  obtain ⟨fields, -, h⟩ := Option.bind_eq_some_iff.mp h
  split at h
  · simp only [Option.bind_eq_bind, Option.bind_eq_some_iff] at h
    obtain ⟨pattern, hpattern, result, -, span, hspan, h⟩ := h
    cases h
    obtain ⟨j, -, hj⟩ := Option.bind_eq_some_iff.mp hpattern
    exact ⟨fun l hl => Pattern.exists_literal_of_ofJson? hj hl, optional?_span_inRange hspan⟩
  · cases h

theorem MatchExpr.exists_of_ofJson? {room : Nat} {j : Json} {m : MatchExpr}
    (h : MatchExpr.ofJson? room j = some m) :
    (∀ a ∈ m.arms, ∃ value, MatchArm.ofJson? (room - 2) value = some a) ∧
      ∀ s ∈ m.span, s.InRange := by
  obtain ⟨fields, -, h⟩ := Option.bind_eq_some_iff.mp h
  split at h
  · simp only [Option.bind_eq_bind, Option.bind_eq_some_iff] at h
    obtain ⟨scrutinee, -, union, -, arms, harms, span, hspan, h⟩ := h
    cases h
    obtain ⟨j, -, hj⟩ := Option.bind_eq_some_iff.mp harms
    exact ⟨fun a ha => exists_of_list?_eq_some hj ha, optional?_span_inRange hspan⟩
  · cases h

namespace Document

variable {d : Document}

/-- A document that is read is kept by a text if its floating-point numbers are. -/
theorem faithful_of_ofJson? {j : Json} (h : Document.ofJson? j = some d)
    (hfloat : ∀ x, Literal.float x ∈ d.literals → (Literal.float x).Faithful) : d.Faithful := by
  obtain ⟨fields, -, h⟩ := Option.bind_eq_some_iff.mp h
  split at h
  · simp only [Option.bind_eq_bind, Option.bind_eq_some_iff] at h
    obtain ⟨source, -, aliases, -, unions, hunions, expressions, hexpressions, h⟩ := h
    cases h
    have hmatch (m : MatchExpr) (hm : m ∈ expressions) :=
      MatchExpr.exists_of_ofJson? (exists_of_listOrEmpty?_eq_some hexpressions hm).choose_spec
    have harm (m : MatchExpr) (hm : m ∈ expressions) (a : MatchArm) (ha : a ∈ m.arms) :=
      MatchArm.exists_of_ofJson? ((hmatch m hm).1 a ha).choose_spec
    refine ⟨fun l hl => ?_, fun s hs => ?_⟩
    · obtain ⟨m, hm, a, ha, hliteral⟩ := mem_literals.mp hl
      obtain ⟨value, hvalue⟩ := (harm m hm a ha).1 l hliteral
      exact Literal.faithful_of_ofJson? hvalue fun x hx => hfloat x (hx ▸ hl)
    · rcases mem_spans.mp hs with ⟨u, hu, hs⟩ | ⟨m, hm, hs | ⟨a, ha, hs⟩⟩
      · obtain ⟨value, hvalue⟩ := exists_of_listOrEmpty?_eq_some hunions hu
        exact UnionDecl.inRange_of_ofJson? hvalue s hs
      · exact (hmatch m hm).2 s hs
      · exact (harm m hm a ha).2 s hs
  · cases h

end Document

end MatchCover
