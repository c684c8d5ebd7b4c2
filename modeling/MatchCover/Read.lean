/-!
# Reading from the front

A reader takes what it reads from the front of a list and leaves the rest. As the rest is shorter,
readers that call themselves on it come to an end.
-/

namespace MatchCover

/-- What was read from the front of a list, and what is left of that. -/
structure Read (α : Type) {σ : Type} (input : List σ) where
  value : α
  rest : List σ
  shorter : rest.length < input.length

variable {α σ : Type} {input : List σ}

def Read.pair (r : Read α input) : α × List σ := (r.value, r.rest)

theorem Read.map_pair_eq_some_iff {r : Option (Read α input)} {a : α} {rest : List σ} :
    r.map Read.pair = some (a, rest) ↔ ∃ h, r = some ⟨a, rest, h⟩ := by
  cases r with
  | none => simp
  | some r =>
    obtain ⟨b, rest', h⟩ := r
    simp only [Option.map_some, Read.pair, Option.some.injEq, Prod.mk.injEq, Read.mk.injEq]
    constructor
    · rintro ⟨rfl, rfl⟩
      exact ⟨h, rfl, rfl⟩
    · rintro ⟨-, heq⟩
      exact heq

end MatchCover
