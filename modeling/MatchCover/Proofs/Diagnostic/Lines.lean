import MatchCover.Diagnostic.Plain
import MatchCover.Proofs.Text.Lines

/-!
# The lines of diagnostics

As plain text a diagnostic takes one line for itself, one for each of its notes and one for its fix.
That is so exactly if its message, its notes and the title of its fix hold no line feed
(`keepsLines_plainText_iff`), since the place in front of the message adds none.
-/

namespace MatchCover.Diagnostic

/-- Lines for diagnostics in their order: one that heads the diagnostic, one for each of its notes
and one for its fix. -/
inductive Laid : List Diagnostic → List String → Prop where
  | nil : Laid [] []
  | cons {x : Diagnostic} {ds : List Diagnostic} {head : String} {notes helps rest : List String} :
    notes.length = x.notes.length → (∀ line ∈ notes, "  note: ".toList <+: line.toList) →
    helps.length = x.fix.toList.length → (∀ line ∈ helps, "  help: ".toList <+: line.toList) →
    Laid ds rest → Laid (x :: ds) (head :: (notes ++ helps) ++ rest)

/-- The text has a line for each diagnostic, note and fix, and no other lines. -/
def KeepsLines (ds : List Diagnostic) (text : String) : Prop :=
  ∃ lines, Laid ds lines ∧ Text.ConsistsOf text lines

/-- None of the texts that a diagnostic carries to its plain lines holds a line feed. -/
structure OneLine (x : Diagnostic) : Prop where
  message : Text.OneLine x.message
  notes : ∀ note ∈ x.notes, Text.OneLine note
  fix : ∀ fix ∈ x.fix, Text.OneLine fix.title

variable {x : Diagnostic} {ds : List Diagnostic} {lines lines' : List String} {filename : String}
  {source : Option String}

/-! ## Layout -/

theorem laid_plainLines (ds : List Diagnostic) (filename : String) (source : Option String) :
    Laid ds (ds.flatMap (·.plainLines filename source)) := by
  have hprefix (p s : String) : p.toList <+: (p ++ s).toList := by
    rw [String.toList_append]
    exact List.prefix_append _ _
  induction ds with
  | nil => exact .nil
  | cons x ds ih =>
    refine .cons (List.length_map _) ?_ (List.length_map _) ?_ ih
    · intro line hline
      obtain ⟨note, -, rfl⟩ := List.mem_map.mp hline
      exact hprefix _ _
    · intro line hline
      obtain ⟨fix, -, rfl⟩ := List.mem_map.mp hline
      exact hprefix _ _

/-- The diagnostics fix the number of their lines. -/
theorem Laid.length_eq (h : Laid ds lines) (h' : Laid ds lines') :
    lines.length = lines'.length := by
  induction h generalizing lines' with
  | nil =>
    cases h'
    rfl
  | cons hnotes _ hhelps _ _ ih =>
    cases h' with
    | cons hnotes' _ hhelps' _ hrest' =>
      simp only [List.length_append, List.length_cons, hnotes, hnotes', hhelps, hhelps', ih hrest']

/-- No other lines can take the place of those that are written. -/
theorem keepsLines_plainText_iff_consistsOf :
    KeepsLines ds (plainText ds filename source) ↔
      Text.ConsistsOf (plainText ds filename source)
        (ds.flatMap (·.plainLines filename source)) := by
  have hlaid := laid_plainLines ds filename source
  constructor
  · rintro ⟨lines, hlines, htext⟩
    exact htext.of_length_eq rfl (hlines.length_eq hlaid)
  · intro htext
    exact ⟨_, hlaid, htext⟩

/-! ## Line feeds -/

theorem oneLine_location (hf : Text.OneLine filename) :
    Text.OneLine (x.location filename source) := by
  have hcolon : Text.OneLine ":" := by decide
  have hat : Text.OneLine "@" := by decide
  have hdots : Text.OneLine ".." := by decide
  unfold location
  split <;> simp [hf, hcolon, hat, hdots, Span.display]

theorem oneLine_headline : Text.OneLine x.headline ↔ Text.OneLine x.message := by
  have hseverity : Text.OneLine x.severity.name := by cases x.severity <;> decide
  have hcode : Text.OneLine x.kind.code := by cases x.kind <;> decide
  have hopen : Text.OneLine "[" := by decide
  have hclose : Text.OneLine "]: " := by decide
  simp [headline, hseverity, hcode, hopen, hclose]

theorem forall_mem_plainLines_iff (hf : Text.OneLine filename) :
    (∀ line ∈ x.plainLines filename source, Text.OneLine line) ↔ x.OneLine := by
  have hplace : Text.OneLine (x.location filename source) := oneLine_location hf
  have hcolon : Text.OneLine ": " := by decide
  have hnote : Text.OneLine "  note: " := by decide
  have hhelp : Text.OneLine "  help: " := by decide
  have hnotes : (∀ line ∈ x.notes.map ("  note: " ++ ·), Text.OneLine line) ↔
      ∀ note ∈ x.notes, Text.OneLine note := by
    simp [hnote]
  have hfix : (∀ line ∈ x.fix.toList.map ("  help: " ++ ·.title), Text.OneLine line) ↔
      ∀ fix ∈ x.fix, Text.OneLine fix.title := by
    simp [hhelp]
  rw [plainLines, List.forall_mem_append, List.forall_mem_append, List.forall_mem_singleton, hnotes,
    hfix]
  simp only [Text.oneLine_append, hplace, hcolon, oneLine_headline, true_and]
  constructor
  · rintro ⟨⟨hmessage, hnotes⟩, hfix⟩
    exact ⟨hmessage, hnotes, hfix⟩
  · rintro ⟨hmessage, hnotes, hfix⟩
    exact ⟨⟨hmessage, hnotes⟩, hfix⟩

theorem keepsLines_plainText_iff (hf : Text.OneLine filename) :
    KeepsLines ds (plainText ds filename source) ↔ ∀ x ∈ ds, x.OneLine := by
  rw [keepsLines_plainText_iff_consistsOf]
  constructor
  · intro h x hx
    exact (forall_mem_plainLines_iff hf).mp fun line hline =>
      h.oneLine line (List.mem_flatMap.mpr ⟨x, hx, hline⟩)
  · intro h
    refine ⟨rfl, fun line hline => ?_⟩
    obtain ⟨x, hx, hline⟩ := List.mem_flatMap.mp hline
    exact (forall_mem_plainLines_iff hf).mpr (h x hx) line hline

end MatchCover.Diagnostic
