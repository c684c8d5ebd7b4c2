import MatchCover.Proofs.Alias.Canonical
import MatchCover.Proofs.Coverage.Separation
import MatchCover.Proofs.TypeRef.Notation

/-!
# Texts that are no types

A text that cannot be read is kept whole as a name. No type that was read has such a name anywhere,
and if the same holds of the targets of the aliases, none has it in its canonical form
(`canonical_ofText_ne`). So the text never means the same as a type that was read. As the type of
an arm it has no bearing on the variants and arms of such types, and these arms have none on it.
-/

namespace MatchCover

namespace TypeRef

/-- Some text is read as the type. -/
def Readable (t : TypeRef) : Prop := ∃ s, parse s = .ok t

variable {t : TypeRef} {s : String} {e : ParseError}

theorem readable_iff_wellFormed : t.Readable ↔ t.WellFormed := by
  constructor
  · rintro ⟨s, hs⟩
    exact wellFormed_of_parse hs
  · intro h
    exact ⟨t.display, parse_eq_ok_iff.mpr (scan_display h)⟩

instance : DecidablePred Readable := fun t =>
  decidable_of_iff (parse t.display = .ok t) <| by
    constructor
    · intro h
      exact ⟨_, h⟩
    · intro h
      exact parse_eq_ok_iff.mpr (scan_display (readable_iff_wellFormed.mp h))

theorem wellFormed_iff_allNames : t.WellFormed ↔ t.AllNames IsName := by
  induction t using argsInduction with
  | mk name args nullable ih =>
    rw [allNames_mk, ← forall₂_congr ih]
    constructor
    · rintro ⟨hname, hargs⟩
      exact ⟨hname, hargs⟩
    · rintro ⟨hname, hargs⟩
      exact .mk hname hargs

theorem ofText_of_error (h : parse s = .error e) : ofText s = named s := by
  rw [ofText, h]

/-- What cannot be read is no name in a type that can. -/
theorem not_wellFormed_of_error (h : parse s = .error e) : ¬ (named s).WellFormed := by
  intro hname
  have hdisplay : (named s).display = s := by simp [named, display, chars, argChars]
  have hok : parse (named s).display = .ok (named s) := parse_eq_ok_iff.mpr (scan_display hname)
  rw [hdisplay, h] at hok
  cases hok

end TypeRef

namespace Environment

open Coverage
open TypeRef (Readable readable_iff_wellFormed ofText parse named)

variable {table : AliasTable} {ignore : Bool} {env : Environment} {s : String}
  {e : TypeRef.ParseError} {t u : TypeRef}

theorem canonical_ofText_of_error (hs : parse s = .error e) (hfree : env.aliases.target? s = none) :
    env.canonical (ofText s) = named s := by
  rw [TypeRef.ofText_of_error hs, named, canonical_of_name hfree, mark, Bool.false_and]

/-- The canonical form of a type that was read differs from that of a text that cannot be. -/
theorem canonical_ofText_ne (hac : env.aliases.Acyclic) (hs : parse s = .error e)
    (hfree : env.aliases.target? s = none)
    (htargets : ∀ n target, env.aliases.target? n = some target → Readable target)
    (hu : Readable u) : env.canonical (ofText s) ≠ env.canonical u := by
  have hnames {t : TypeRef} (h : Readable t) : t.AllNames TypeRef.IsName :=
    TypeRef.wellFormed_iff_allNames.mp (readable_iff_wellFormed.mp h)
  have hcanonical : (env.canonical u).WellFormed :=
    TypeRef.wellFormed_iff_allNames.mpr
      (allNames_canonical hac (fun n target h => hnames (htargets n target h)) (hnames hu))
  rw [canonical_ofText_of_error hs hfree]
  intro heq
  exact TypeRef.not_wellFormed_of_error hs (heq ▸ hcanonical)

/-- Where no alias has the name of an unreadable text and all targets of aliases were read from
texts, the text never means the same as a type that was read. An arm for it makes no difference to
which of the variants that were read are missing and which of them only literals touch. Of such an
arm and an arm for a type that was read neither has to do with a report on the other. -/
theorem unreadable_stands_apart (henv : ofAliases table ignore = .ok env)
    (hs : parse s = .error e) (hfree : table.target? s = none)
    (htargets : ∀ n target, table.target? n = some target → Readable target) :
    (∀ u, Readable u → env.canonical (ofText s) ≠ env.canonical u) ∧
    ∀ arm : Arm TypeRef, arm.type? = some (ofText s) →
      (∀ variants before after,
        (check env.canonical variants (before ++ arm :: after)).missingVariants.filter Readable =
          (check env.canonical variants (before ++ after)).missingVariants.filter Readable ∧
        (literalOnly env.canonical variants (before ++ arm :: after)).filter Readable =
          (literalOnly env.canonical variants (before ++ after)).filter Readable) ∧
      ∀ (other : Arm TypeRef) (u : TypeRef), other.type? = some u → Readable u →
        LeavesReport env.canonical arm other ∧ LeavesReport env.canonical other arm := by
  obtain ⟨hac, rfl⟩ := ofAliases_eq_ok_iff.mp henv
  have hne (u : TypeRef) (hu : Readable u) :
      canonical ⟨table, ignore⟩ (ofText s) ≠ canonical ⟨table, ignore⟩ u :=
    canonical_ofText_ne hac hs hfree htargets hu
  refine ⟨hne, fun arm harm => ⟨fun variants before after => ?_, fun other u hother hu => ?_⟩⟩
  · have hmisses (u : TypeRef) (hu : Readable u) :
        arm.Misses (canonical ⟨table, ignore⟩) (canonical ⟨table, ignore⟩ u) := ⟨_, harm, hne u hu⟩
    exact ⟨filter_missingVariants_insert hmisses, filter_literalOnly_insert hmisses⟩
  · exact ⟨leavesReport_of_misses hother ⟨_, harm, hne u hu⟩,
      leavesReport_of_misses harm ⟨u, hother, (hne u hu).symm⟩⟩

/-- A chain of aliases ends in a generic type of the name that the text begins with, and one binding
that no text could give is replaced. -/
theorem unreadable_stands_apart_of_chain :
    ∃ (table : AliasTable) (env : Environment) (e : TypeRef.ParseError),
      table = [("Id", .named "A>"), ("Id", .named "Pair"),
        ("Pair", ⟨"List", [.named "A"], false⟩)] ∧
      ofAliases table false = .ok env ∧ parse "List<A" = .error e ∧
      env.canonical (ofText "List<A") ≠ env.canonical (.named "Id") ∧
      (check env.canonical [.named "Id", ofText "List<A"]
          [.typeTest (some (ofText "List<A"))]).missingVariants.filter Readable =
        (check env.canonical [.named "Id", ofText "List<A"] []).missingVariants.filter Readable ∧
      LeavesReport env.canonical (.typeTest (some (ofText "List<A")))
        (.literal (some (.named "Id"))) := by
  let table : AliasTable :=
    [("Id", .named "A>"), ("Id", .named "Pair"), ("Pair", ⟨"List", [.named "A"], false⟩)]
  have henv : ofAliases table false = .ok ⟨table, false⟩ := by cbv
  have hs : parse "List<A" = .error ⟨"List<A", .unclosedArguments⟩ := by decide +kernel
  have htargets : ∀ n target, table.target? n = some target → Readable target := by
    intro n target h
    have hcases : target = .named "Pair" ∨ target = ⟨"List", [.named "A"], false⟩ := by
      simp [table, AliasTable.target?] at h
      grind
    rcases hcases with rfl | rfl <;> decide +kernel
  have hid : Readable (.named "Id") := by decide +kernel
  obtain ⟨hne, harms⟩ := unreadable_stands_apart henv hs (by decide) htargets
  obtain ⟨hvariants, hreports⟩ := harms (.typeTest (some (ofText "List<A"))) rfl
  exact ⟨table, _, _, rfl, henv, hs, hne _ hid, (hvariants _ [] []).1,
    (hreports (.literal (some (.named "Id"))) _ rfl hid).1⟩

end Environment

end MatchCover
