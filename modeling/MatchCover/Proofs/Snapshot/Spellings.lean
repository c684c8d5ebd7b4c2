import Mathlib.Data.List.Forall2
import MatchCover.Proofs.Json.Records
import MatchCover.Proofs.TypeRef.Grammar
import MatchCover.Snapshot.Reading

/-!
# Spellings of a type in JSON

Each node of a type is spelled as a text of the type notation, together with all that is below it,
or as an object, where the arguments are spelled in turn, each in its own way (`Spells`). The fields
of an object stand in any order among others that mean nothing; one that says no more than the
default may be absent. The reader finds what stands under each of the three names
(`fields?_of_under`), so that by induction on the type all of its spellings are read as that type.
-/

namespace MatchCover.TypeRef

open Json

/-! ## Spellings -/

def fieldNames : List String := ["name", "args", "nullable"]

/-- The field for the arguments, absent only if there are none. -/
inductive ArgsField (spells : TypeRef → Json → Prop) :
    List TypeRef → List (String × Json) → Prop where
  | absent : ArgsField spells [] []
  | array {args : List TypeRef} {items : List Json} :
    List.Forall₂ spells args items → ArgsField spells args [("args", .array items)]

/-- The field for the nullable mark, absent only if there is no mark. -/
inductive MarkField : Bool → List (String × Json) → Prop where
  | absent : MarkField false []
  | bool (b : Bool) : MarkField b [("nullable", .bool b)]

theorem ArgsField.imp {spells spells' : TypeRef → Json → Prop} {args : List TypeRef}
    {fields : List (String × Json)} (h : ArgsField spells args fields)
    (himp : ∀ a ∈ args, ∀ j, spells a j → spells' a j) : ArgsField spells' args fields := by
  cases h with
  | absent => exact .absent
  | array h =>
    refine .array ?_
    induction h with
    | nil => exact .nil
    | cons hj _ ih =>
      obtain ⟨ha, hargs⟩ := List.forall_mem_cons.mp himp
      exact .cons (ha _ hj) (ih hargs)

/-- The value spells the type. -/
inductive Spells : TypeRef → Json → Prop where
  | text {t : TypeRef} {text : List Piece} (d : Derivation .text) :
    d.meaning = t → Piece.text? text = some d.chars → Spells t (.string text)
  | object {name : String} {args : List TypeRef} {nullable : Bool} {nameText : List Piece}
      {argsField markField others fields : List (String × Json)}
      {members : List (List Piece × Json)} :
    Piece.string? nameText = some name → ArgsField Spells args argsField →
    MarkField nullable markField →
    (∀ f ∈ others, f.1 ∉ fieldNames ∧ f.2.readable = true) →
    fields.Perm (("name", .string nameText) :: (argsField ++ markField ++ others)) →
    keyed? members = some fields → Spells ⟨name, args, nullable⟩ (.object members)

variable {t : TypeRef} {j : Json} {name : String} {args : List TypeRef} {nullable : Bool}
  {fields fields' : List (String × Json)} {members : List (List Piece × Json)}

/-- A text that can be read spells its type, however it is escaped. -/
theorem Spells.of_parse {text : List Piece} {s : String} (htext : Piece.string? text = some s)
    (h : parse s = .ok t) : Spells t (.string text) := by
  obtain ⟨d, hd, hmeaning⟩ := parse_eq_ok_iff_derivation.mp h
  obtain ⟨chars, hchars, rfl⟩ := Option.map_eq_some_iff.mp htext
  rw [String.toList_ofList] at hd
  exact .text d hmeaning (by rw [hchars, hd])

theorem exists_parse_of_spells_string {text : List Piece} (h : Spells t (.string text)) :
    ∃ s, Piece.string? text = some s ∧ parse s = .ok t := by
  cases h with
  | text d hmeaning htext =>
    refine ⟨String.ofList d.chars, by rw [Piece.string?, htext, Option.map_some], ?_⟩
    exact parse_eq_ok_iff_derivation.mpr ⟨d, by rw [String.toList_ofList], hmeaning⟩

/-- The types that have a text are those whose names the notation can spell. -/
theorem wellFormed_iff_spells_string : t.WellFormed ↔ ∃ text, Spells t (.string text) := by
  constructor
  · intro h
    exact ⟨Piece.ofString t.display,
      .of_parse (Piece.string?_ofString _) (parse_eq_ok_iff.mpr (scan_display h))⟩
  · rintro ⟨text, h⟩
    obtain ⟨s, -, hs⟩ := exists_parse_of_spells_string h
    exact wellFormed_of_parse hs

theorem toJsons_eq_map (ts : List TypeRef) : toJsons ts = ts.map toJson := by
  induction ts with
  | nil => rfl
  | cons t ts ih => rw [toJsons, ih, List.map_cons]

theorem toJson_mk (name : String) (args : List TypeRef) (nullable : Bool) :
    toJson ⟨name, args, nullable⟩ =
      ofFields [("name", ofString name), ("args", array (args.map toJson)),
        ("nullable", bool nullable)] := by
  rw [toJson, toJsons_eq_map]

theorem no_others : ∀ f ∈ ([] : List (String × Json)), f.1 ∉ fieldNames ∧ f.2.readable = true :=
  nofun

/-- A type is spelled by what is written of it. -/
theorem spells_toJson (t : TypeRef) : Spells t t.toJson := by
  induction t using argsInduction with
  | mk name args nullable ih =>
    rw [toJson_mk]
    have hargs : List.Forall₂ Spells args (args.map toJson) :=
      List.forall₂_map_right_iff.mpr (List.forall₂_same.mpr ih)
    exact .object (Piece.string?_ofString name) (.array hargs) (.bool nullable) no_others
      (List.Perm.refl _) (keyed?_map _)

/-! ## Fields under a name -/

/-- The values that stand under a name. -/
def under (fields : List (String × Json)) (name : String) : List Json :=
  (fields.filter (·.1 == name)).map (·.2)

@[simp] theorem under_nil : under [] name = [] := rfl

@[simp] theorem under_cons (key : String) (value : Json) :
    under ((key, value) :: fields) name =
      (if key = name then [value] else []) ++ under fields name := by
  unfold under
  by_cases h : key = name <;> simp [h]

@[simp] theorem under_append :
    under (fields ++ fields') name = under fields name ++ under fields' name := by
  simp [under]

theorem under_perm (h : fields.Perm fields') (name : String) :
    (under fields name).Perm (under fields' name) :=
  (h.filter _).map _

theorem under_eq_nil (h : ∀ f ∈ fields, f.1 ∉ fieldNames) (hname : name ∈ fieldNames) :
    under fields name = [] := by
  have hfilter : fields.filter (·.1 == name) = [] := by
    rw [List.filter_eq_nil_iff]
    intro f hf heq
    exact h f hf (beq_iff_eq.mp heq ▸ hname)
  rw [under, hfilter, List.map_nil]

/-- A value in front of those under a name is the only one. -/
theorem mapM_cons_eq_toList {α : Type} {read : Json → Option α} {value : Json}
    {values : List Json} {x : Option α} (h : (value :: values).mapM read = some x.toList) :
    ∃ a, x = some a ∧ read value = some a ∧ values.mapM read = some (none : Option α).toList := by
  simp only [List.mapM_cons, Option.bind_eq_bind, Option.bind_eq_some_iff] at h
  obtain ⟨a, ha, rest, hrest, h⟩ := h
  cases x with
  | none => cases h
  | some b =>
    cases h
    exact ⟨a, rfl, ha, hrest⟩

theorem keyed?_cons_eq_some_iff {key : List Piece} {value : Json} :
    keyed? ((key, value) :: members) = some fields ↔
      ∃ k rest, Piece.string? key = some k ∧ keyed? members = some rest ∧
        (k, value) :: rest = fields := by
  simp only [keyed?, List.mapM_cons, Option.bind_eq_bind, Option.bind_eq_some_iff,
    Option.map_eq_some_iff, Option.pure_def, Option.some.injEq]
  constructor
  · rintro ⟨_, ⟨k, hk, rfl⟩, rest, hrest, rfl⟩
    exact ⟨k, rest, hk, hrest, rfl⟩
  · rintro ⟨k, rest, hk, hrest, rfl⟩
    exact ⟨_, ⟨k, hk, rfl⟩, rest, hrest, rfl⟩

/-- The reader finds what stands under each of the names. -/
theorem fields?_of_under {name : Option String} {args : Option (List TypeRef)}
    {nullable : Option Bool} (hkeys : keyed? members = some fields)
    (hname : (under fields "name").mapM string? = some name.toList)
    (hargs : (under fields "args").mapM args? = some args.toList)
    (hnullable : (under fields "nullable").mapM bool? = some nullable.toList) :
    fields? members = some ⟨name, args, nullable⟩ := by
  induction members generalizing fields name args nullable with
  | nil =>
    cases hkeys
    cases name <;> cases args <;> cases nullable <;> simp_all [fields?]
  | cons m members ih =>
    obtain ⟨key, value⟩ := m
    obtain ⟨k, rest, hk, hrest, rfl⟩ := keyed?_cons_eq_some_iff.mp hkeys
    -- a known name takes one field of the type, so that no other value can stand under it
    by_cases h : k = "name"
    · subst h
      obtain ⟨n, rfl, hn, hnone⟩ := mapM_cons_eq_toList (by simpa using hname)
      simp [fields?, hk, hn, ih hrest hnone (by simpa using hargs) (by simpa using hnullable)]
    by_cases h' : k = "args"
    · subst h'
      obtain ⟨as, rfl, has, hnone⟩ := mapM_cons_eq_toList (by simpa using hargs)
      simp [fields?, hk, has, ih hrest (by simpa using hname) hnone (by simpa using hnullable)]
    by_cases h'' : k = "nullable"
    · subst h''
      obtain ⟨b, rfl, hb, hnone⟩ := mapM_cons_eq_toList (by simpa using hnullable)
      simp [fields?, hk, hb, ih hrest (by simpa using hname) (by simpa using hargs) hnone]
    simp [fields?, hk, h, h', h'', ih hrest (by simpa [h] using hname)
      (by simpa [h'] using hargs) (by simpa [h''] using hnullable)]

/-! ## Reading -/

theorem ofValues?_of_forall₂ {items : List Json}
    (h : List.Forall₂ (fun t j => ofValue? j = some t) args items) :
    ofValues? items = some args := by
  induction h with
  | nil => rfl
  | cons hj _ ih => simp [ofValues?, hj, ih]

/-- Of values that are read as one at most the order does not matter. -/
theorem mapM_eq_toList_of_perm {α : Type} {read : Json → Option α} {values values' : List Json}
    {x : Option α} (h : values.Perm values') (hread : values'.mapM read = some x.toList) :
    values.mapM read = some x.toList := by
  cases values' with
  | nil => rw [List.perm_nil.mp h, hread]
  | cons value rest =>
    obtain ⟨a, rfl, -, hrest⟩ := mapM_cons_eq_toList hread
    cases rest with
    | nil => rw [List.perm_singleton.mp h, hread]
    | cons _ _ =>
      obtain ⟨_, hsome, -⟩ := mapM_cons_eq_toList hrest
      cases hsome

theorem ArgsField.exists_mapM
    (h : ArgsField (fun t j => ofValue? j = some t) args fields) :
    ∃ x : Option (List TypeRef),
      (under fields "args").mapM args? = some x.toList ∧ x.getD [] = args := by
  cases h with
  | absent => exact ⟨none, rfl, rfl⟩
  | array hitems => exact ⟨some args, by simp [args?, ofValues?_of_forall₂ hitems], rfl⟩

theorem MarkField.exists_mapM (h : MarkField nullable fields) :
    ∃ x : Option Bool,
      (under fields "nullable").mapM bool? = some x.toList ∧ x.getD false = nullable := by
  cases h with
  | absent => exact ⟨none, rfl, rfl⟩
  | bool => exact ⟨some nullable, by simp [bool?], rfl⟩

theorem ArgsField.under_eq_nil {spells : TypeRef → Json → Prop}
    (h : ArgsField spells args fields) (hname : name ≠ "args") : under fields name = [] := by
  cases h <;> simp [hname.symm]

theorem MarkField.under_eq_nil (h : MarkField nullable fields) (hname : name ≠ "nullable") :
    under fields name = [] := by
  cases h <;> simp [hname.symm]

/-- The fields that spell a type are read as those of the type, whatever stands among them. -/
theorem fields?_of_perm {nameText : List Piece} {argsField markField others : List (String × Json)}
    (hname : Piece.string? nameText = some name)
    (hargs : ArgsField (fun t j => ofValue? j = some t) args argsField)
    (hmark : MarkField nullable markField) (hothers : ∀ f ∈ others, f.1 ∉ fieldNames)
    (hfields : fields.Perm (("name", .string nameText) :: (argsField ++ markField ++ others)))
    (hkeys : keyed? members = some fields) :
    ∃ f : Fields, fields? members = some f ∧ f.name = some name ∧ f.args.getD [] = args ∧
      f.nullable.getD false = nullable := by
  obtain ⟨as, has, hargsEq⟩ := hargs.exists_mapM
  obtain ⟨b, hb, hmarkEq⟩ := hmark.exists_mapM
  have hread {α : Type} {read : Json → Option α} {x : Option α} (n : String) (hn : n ∈ fieldNames)
      (h : ((if "name" = n then [Json.string nameText] else []) ++
        (under argsField n ++ under markField n)).mapM read = some x.toList) :
      (under fields n).mapM read = some x.toList := by
    refine mapM_eq_toList_of_perm ?_ h
    simpa [under_eq_nil hothers hn] using under_perm hfields n
  refine ⟨⟨some name, as, b⟩, fields?_of_under hkeys (hread "name" (by simp [fieldNames]) ?_)
    (hread "args" (by simp [fieldNames]) ?_) (hread "nullable" (by simp [fieldNames]) ?_),
    rfl, hargsEq, hmarkEq⟩
  · rw [hargs.under_eq_nil (by decide), hmark.under_eq_nil (by decide)]
    simp [string?, hname]
  · rw [hmark.under_eq_nil (by decide)]
    simpa using has
  · rw [hargs.under_eq_nil (by decide)]
    simpa using hb

/-- A type is read from each of its spellings. -/
theorem ofValue?_of_spells (h : Spells t j) : ofValue? j = some t := by
  induction t using argsInduction generalizing j with
  | mk name args nullable ih =>
    cases h with
    | text d hmeaning htext =>
      obtain ⟨s, hs, hparse⟩ := exists_parse_of_spells_string (.text d hmeaning htext)
      rw [ofValue?, hs, Option.map_some, ofText, hparse]
    | object hname hargs hmark hothers hfields hkeys =>
      obtain ⟨f, hf, hn, has, hb⟩ := fields?_of_perm hname (hargs.imp fun a ha j => ih a ha) hmark
        (fun f hf => (hothers f hf).1) hfields hkeys
      simp [ofValue?, hf, hn, has, hb]

theorem readableMembers_of_keyed? (hkeys : keyed? members = some fields)
    (h : ∀ f ∈ fields, f.2.readable = true) : readableMembers members = true := by
  induction members generalizing fields with
  | nil => rfl
  | cons m members ih =>
    obtain ⟨key, value⟩ := m
    obtain ⟨k, rest, hk, hrest, rfl⟩ := keyed?_cons_eq_some_iff.mp hkeys
    obtain ⟨hvalue, hrestValues⟩ := List.forall_mem_cons.mp h
    obtain ⟨chars, hchars, -⟩ := Option.map_eq_some_iff.mp hk
    simp [readableMembers, hchars, hvalue, ih hrest hrestValues]

/-- A value that spells a type can be read throughout. -/
theorem readable_of_spells (h : Spells t j) : j.readable = true := by
  induction t using argsInduction generalizing j with
  | mk name args nullable ih =>
    cases h with
    | text d _ htext => rw [readable, htext, Option.isSome_some]
    | object hname hargs hmark hothers hfields hkeys =>
      refine readableMembers_of_keyed? hkeys fun f hf => ?_
      obtain ⟨chars, hchars, -⟩ := Option.map_eq_some_iff.mp hname
      simp only [hfields.mem_iff, List.mem_cons, List.mem_append] at hf
      rcases hf with rfl | (hf | hf) | hf
      · rw [readable, hchars, Option.isSome_some]
      · cases hargs with
        | absent => cases hf
        | array hitems =>
          obtain rfl := List.mem_singleton.mp hf
          refine readableItems_iff.mpr fun j hj => ?_
          obtain ⟨a, ha, hspells⟩ := exists_of_mem_of_forall₂ hitems hj
          exact ih a ha hspells
      · cases hmark with
        | absent => cases hf
        | bool =>
          obtain rfl := List.mem_singleton.mp hf
          rfl
      · exact (hothers f hf).2

/-- Each type is read from all of its spellings, from those that are texts of JSON as long as they
nest no more than `depthLimit` arrays and objects. What is written of the type is a spelling of it,
and it can be spelled as a text exactly if the notation can spell all of its names. -/
theorem spellings_read_alike (t : TypeRef) :
    (∀ j, Spells t j → ofValue? j = some t ∧
      ∀ text, Json.parse? text = some j →
        ofJsonText? text = if j.depth ≤ depthLimit then some t else none) ∧
    Spells t t.toJson ∧ (t.WellFormed ↔ ∃ text, Spells t (.string text)) := by
  refine ⟨fun j h => ⟨ofValue?_of_spells h, fun text hparse => ?_⟩, spells_toJson t,
    wellFormed_iff_spells_string⟩
  rw [ofJsonText?, hparse, Option.bind_some, ofJson?, sound, readable_of_spells h,
    ofValue?_of_spells h]
  simp

/-- Fields out of order and an unknown one; the first argument is a text with blanks and an escape,
the second an object that has its own argument as a text. -/
theorem spellings_read_alike_of_mixed :
    ∃ (text : String) (j : Json) (t : TypeRef),
      text = "\x7b\"nullable\": true, \"args\": [\" \\u0042 < C ? > \", \x7b\"args\": [\"E\"]," ++
        "\"name\": \"F\"\x7d], \"x\": [null, 1e9], \"name\": \"OneOf\"\x7d" ∧
      t = ⟨"OneOf", [⟨"B", [⟨"C", [], true⟩], false⟩, ⟨"F", [.named "E"], false⟩], true⟩ ∧
      Json.parse? text = some j ∧ Spells t j ∧ ofValue? j = some t ∧ ofJsonText? text = some t := by
  let text : String :=
    "\x7b\"nullable\": true, \"args\": [\" \\u0042 < C ? > \", \x7b\"args\": [\"E\"]," ++
      "\"name\": \"F\"\x7d], \"x\": [null, 1e9], \"name\": \"OneOf\"\x7d"
  let first : List Piece :=
    [.char ' ', .unit 0x42, .char ' ', .char '<', .char ' ', .char 'C', .char ' ', .char '?',
      .char ' ', .char '>', .char ' ']
  let second : List (String × Json) :=
    [("args", .array [Json.ofString "E"]), ("name", Json.ofString "F")]
  let whole : List (String × Json) :=
    [("nullable", .bool true), ("args", .array [.string first, ofFields second]),
      ("x", .array [.null, .number "1e9".toList]), ("name", Json.ofString "OneOf")]
  have hfirst : Spells ⟨"B", [⟨"C", [], true⟩], false⟩ (.string first) :=
    .of_parse (s := " B < C ? > ") (by decide) (by decide +kernel)
  have hsecond : Spells ⟨"F", [.named "E"], false⟩ (ofFields second) :=
    .object (Piece.string?_ofString "F")
      (.array (.cons (.of_parse (Piece.string?_ofString "E") (by decide +kernel)) .nil)) .absent
      no_others (.swap _ _ _) (keyed?_map second)
  have hothers : ∀ f ∈ [whole[2]], f.1 ∉ fieldNames ∧ f.2.readable = true := by
    have hreadable : whole[2].2.readable = true := by decide +kernel
    simpa [whole, fieldNames] using hreadable
  have horder : whole.Perm (whole[3] :: ([whole[1]] ++ [whole[0]] ++ [whole[2]])) :=
    (List.perm_append_singleton _ [_, _, _]).trans ((List.Perm.swap _ _ _).cons _)
  have hwhole : Spells
      ⟨"OneOf", [⟨"B", [⟨"C", [], true⟩], false⟩, ⟨"F", [.named "E"], false⟩], true⟩
      (ofFields whole) :=
    .object (Piece.string?_ofString "OneOf") (.array (.cons hfirst (.cons hsecond .nil)))
      (.bool true) hothers horder (keyed?_map whole)
  have hparse : Json.parse? text = some (ofFields whole) := by
    dsimp only [text]
    cbv
  obtain ⟨hvalue, hread⟩ := (spellings_read_alike _).1 _ hwhole
  exact ⟨text, _, _, rfl, rfl, hparse, hwhole, hvalue, hread text hparse⟩

end MatchCover.TypeRef
