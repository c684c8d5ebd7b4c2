import MatchCover.Json.Record
import MatchCover.Proofs.Except
import MatchCover.Proofs.Json.Printing
import MatchCover.Snapshot.Writing

/-!
# Records in JSON

An object that is written from named fields gives each of them back under its name
(`record?_ofFields`), and all that holds of it holds of its fields: whether its text can be read,
how deep it nests. A field that is read is some value that was there.
-/

namespace MatchCover.Json

/-! ## Fields -/

section
variable {fields : List (String × Json)} {name : String} {value : Json}

theorem keyed?_map (fields : List (String × Json)) :
    keyed? (fields.map fun f => (Piece.ofString f.1, f.2)) = some fields := by
  rw [keyed?, List.mapM_map, mapM_eq_some_map (g := id), List.map_id]
  rintro ⟨name, value⟩ -
  simp

/-- A name that is given once has its value. -/
theorem field?_of_mem (hnodup : (fields.map (·.1)).Nodup) (h : (name, value) ∈ fields) :
    field? fields name = some (some value) := by
  have hfilter : fields.filter (·.1 == name) = [(name, value)] := by
    induction fields with
    | nil => cases h
    | cons f fields ih =>
      obtain ⟨hf, hnodup⟩ := List.nodup_cons.mp hnodup
      rcases List.mem_cons.mp h with rfl | h
      · rw [List.filter_cons_of_pos (by simp), List.filter_eq_nil_iff.mpr]
        intro g hg hname
        exact hf (List.mem_map.mpr ⟨g, hg, by simpa using hname⟩)
      · have hne : f.1 ≠ name := by
          rintro rfl
          exact hf (List.mem_map.mpr ⟨_, h, rfl⟩)
        rw [List.filter_cons_of_neg (by simpa using hne), ih hnodup h]
  rw [field?, hfilter]

/-- The fields of an object that was written, some of them asked for. -/
theorem objectFields?_of_subset {asked : List (String × Json)} (h : asked ⊆ fields)
    (hnodup : (fields.map (·.1)).Nodup) :
    objectFields? (asked.map (·.1)) (fields.map fun f => (Piece.ofString f.1, f.2)) =
      some (asked.map (some ·.2)) := by
  rw [objectFields?, keyed?_map, Option.bind_eq_bind, Option.bind_some, List.mapM_map]
  exact mapM_eq_some_map fun f hf => field?_of_mem hnodup (h hf)

/-- The fields of a record that was written. -/
theorem record?_ofFields {names : List String} (hnames : fields.map (·.1) = names)
    (hnodup : names.Nodup) : record? names (ofFields fields) = some (fields.map (some ·.2)) := by
  subst hnames
  exact objectFields?_of_subset (List.Subset.refl fields) hnodup

theorem plain_ofString (s : String) : (ofString s).Plain :=
  .string fun _ => Piece.plain_ofString

theorem readable_ofString (s : String) : (ofString s).readable = true := by
  simp [ofString, readable, Piece.text?_ofString]

theorem plain_ofFields (h : ∀ f ∈ fields, f.2.Plain) : (ofFields fields).Plain := by
  refine .object (fun m hm p hp => ?_) fun m hm => ?_
  · obtain ⟨f, -, rfl⟩ := List.mem_map.mp hm
    exact Piece.plain_ofString hp
  · obtain ⟨f, hf, rfl⟩ := List.mem_map.mp hm
    exact h f hf

theorem readableItems_iff {items : List Json} :
    readableItems items = true ↔ ∀ j ∈ items, j.readable = true := by
  induction items with
  | nil => simp [readableItems]
  | cons j items ih => simp [readableItems, ih]

theorem readable_ofFields (h : ∀ f ∈ fields, f.2.readable = true) :
    (ofFields fields).readable = true := by
  rw [ofFields, readable]
  induction fields with
  | nil => rfl
  | cons f fields ih =>
    obtain ⟨hf, hfields⟩ := List.forall_mem_cons.mp h
    simp [readableMembers, Piece.text?_ofString, hf, ih hfields]

end

/-! ## Fields that may be absent -/

section
variable {read : Json → Option α} {write : α → Json} {x : Option α}

theorem optional?_of_ne_null {j : Json} (h : j ≠ null) :
    optional? read (some j) = (read j).map some := by
  cases j <;> first | rfl | exact absurd rfl h

theorem optional?_ofOption (hnull : ∀ a, write a ≠ null)
    (hread : ∀ a ∈ x, read (write a) = some a) :
    optional? read (some (ofOption write x)) = some x := by
  cases x with
  | none => rfl
  | some a => rw [ofOption, optional?_of_ne_null (hnull a), hread a rfl, Option.map_some]

theorem plain_ofOption (h : ∀ a ∈ x, (write a).Plain) : (ofOption write x).Plain := by
  cases x with
  | none => exact .null
  | some a => exact h a rfl

theorem optional?_string (s : Option String) :
    optional? string? (some (ofOption ofString s)) = some s :=
  optional?_ofOption nofun fun s _ => Piece.string?_ofString s

theorem plain_optionString (s : Option String) : (ofOption ofString s).Plain :=
  plain_ofOption fun s _ => plain_ofString s

theorem readable_ofOption (h : ∀ a ∈ x, (write a).readable = true) :
    (ofOption write x).readable = true := by
  cases x with
  | none => rfl
  | some a => exact h a rfl

/-- What a field is read as was read from a value. -/
theorem exists_of_optional?_eq_some {field : Option Json} (h : optional? read field = some x)
    {a : α} (ha : a ∈ x) : ∃ j, read j = some a := by
  unfold optional? at h
  split at h
  · cases h
    cases ha
  · cases h
    cases ha
  · obtain ⟨b, hb, h⟩ := Option.map_eq_some_iff.mp h
    cases h
    cases ha
    exact ⟨_, hb⟩

theorem exists_of_list?_eq_some {j : Json} {xs : List α} (h : list? read j = some xs) {a : α}
    (ha : a ∈ xs) : ∃ j, read j = some a := by
  obtain ⟨items, -, h⟩ := Option.bind_eq_some_iff.mp h
  obtain ⟨j, -, hj⟩ := exists_of_mem_of_forall₂ (mapM_eq_some_iff.mp h) ha
  exact ⟨j, hj⟩

theorem exists_of_listOrEmpty?_eq_some {field : Option Json} {xs : List α}
    (h : listOrEmpty? read field = some xs) {a : α} (ha : a ∈ xs) : ∃ j, read j = some a := by
  cases field with
  | none =>
    cases h
    cases ha
  | some j => exact exists_of_list?_eq_some h ha

end

/-! ## Depths -/

theorem depthOfMembers_map (fields : List (String × Json)) :
    depthOfMembers (fields.map fun f => (Piece.ofString f.1, f.2)) =
      depthOfItems (fields.map (·.2)) := by
  induction fields with
  | nil => rfl
  | cons f fields ih => rw [List.map_cons, List.map_cons, depthOfMembers, depthOfItems, ih]

theorem depth_ofFields (fields : List (String × Json)) :
    (ofFields fields).depth = depthOfItems (fields.map (·.2)) + 1 :=
  congrArg (· + 1) (depthOfMembers_map fields)

theorem depth_ofString (s : String) : (ofString s).depth = 0 := rfl

theorem depth_ofOption_le {write : α → Json} {n : Nat} (h : ∀ a, (write a).depth ≤ n)
    (x : Option α) : (ofOption write x).depth ≤ n := by
  cases x with
  | none => exact Nat.zero_le n
  | some a => exact h a

/-- A list is read back if each item is that does not nest too deep. -/
theorem list?_map {read : Json → Option α} {room : Nat} (write : α → Json) (xs : List α)
    (h : ∀ x ∈ xs, read (write x) = if (write x).depth ≤ room then some x else none) :
    list? read (array (xs.map write)) =
      if depthOfItems (xs.map write) ≤ room then some xs else none := by
  rw [list?, items?, Option.bind_eq_bind, Option.bind_some]
  induction xs with
  | nil => rfl
  | cons x xs ih =>
    obtain ⟨hx, hxs⟩ := List.forall_mem_cons.mp h
    rw [List.map_cons, List.mapM_cons, hx, ih hxs, depthOfItems]
    split_ifs <;> first | rfl | omega

end MatchCover.Json
