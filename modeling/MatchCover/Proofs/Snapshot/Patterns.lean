import MatchCover.Proofs.Snapshot.Spellings

/-!
# Writing and reading types and patterns

Each of them is read back as it was written, as long as there is room for its depth. A literal is
written in a way that tells its kind, so an integer stays one and a floating-point number does not
turn into one; that the latter is read back at all is what `Literal.Faithful` asks of it.
-/

namespace MatchCover

open Json

/-! ## Types -/

namespace TypeRef

theorem ofValue?_toJson (t : TypeRef) : ofValue? t.toJson = some t :=
  ofValue?_of_spells (spells_toJson t)

theorem plain_toJson (t : TypeRef) : t.toJson.Plain := by
  induction t using argsInduction with
  | mk name args nullable ih =>
    rw [toJson_mk]
    have hargs : (array (args.map toJson)).Plain := .array (by simpa using ih)
    exact plain_ofFields (by simp [plain_ofString, hargs, Plain.bool])

theorem readable_toJson (t : TypeRef) : t.toJson.readable = true :=
  readable_of_spells (spells_toJson t)

theorem toJson_ne_null (t : TypeRef) : t.toJson ≠ null := by
  obtain ⟨name, args, nullable⟩ := t
  simp [toJson, ofFields]

/-- Each level of arguments takes two levels of the value. -/
theorem depth_toJson_mk (name : String) (args : List TypeRef) (nullable : Bool) :
    (toJson ⟨name, args, nullable⟩).depth = depthOfItems (args.map toJson) + 2 := by
  simp [toJson_mk, depth_ofFields, depthOfItems, depth_ofString, depth]

theorem two_le_depth_toJson (t : TypeRef) : 2 ≤ t.toJson.depth := by
  obtain ⟨name, args, nullable⟩ := t
  rw [depth_toJson_mk]
  omega

theorem ofJson?_toJson (room : Nat) (t : TypeRef) :
    ofJson? room t.toJson = if t.toJson.depth ≤ room then some t else none := by
  simp [ofJson?, sound, readable_toJson, ofValue?_toJson]

end TypeRef

/-! ## Literals -/

namespace Literal

/-- A literal that a text keeps: an integer is in range, and reading the text of a floating-point
number gives that number. -/
def Faithful : Literal → Prop
  | int n => isInt n = true
  | float x => (Numeral.ofLexeme? (Json.layout.write x)).bind Numeral.float? = some x
  | _ => True

variable {l : Literal}

theorem natAbs_lt_of_isInt {n : Int} (h : isInt n = true) : n.natAbs < 2 ^ 64 := by
  have hpow : ((Nat.pow 2 63 : Nat) : Int) = 2 ^ 63 := rfl
  simp only [isInt, Bool.and_eq_true, decide_eq_true_eq, hpow] at h
  omega

theorem ofJson?_toJson (h : l.Faithful) : Literal.ofJson? l.toJson = some l := by
  cases l with
  | bool b => rfl
  | int n =>
    have hn : isInt n = true := h
    simp only [toJson, ofInt, ofJson?, Numeral.ofLexeme?_intLexeme, Option.bind_eq_bind,
      Option.bind_some, Numeral.int?_intNumeral, Option.filter_some, if_pos hn]
  | float x =>
    obtain ⟨n, hn, hx⟩ := Option.bind_eq_some_iff.mp h
    simp only [toJson, ofJson?, hn, Option.bind_eq_bind, Option.bind_some, Layout.int?_of_write hn,
      Option.filter_none, hx, Option.map_some]
  | string s => simp [toJson, Json.ofString, ofJson?]
  | null => rfl

theorem plain_toJson (h : l.Faithful) : l.toJson.Plain := by
  cases l with
  | bool b => exact .bool b
  | int n => exact .number (isLexeme_intLexeme n)
  | float x =>
    obtain ⟨n, hn, -⟩ := Option.bind_eq_some_iff.mp h
    exact .number ⟨fun c => Layout.isNumberChar_of_mem_write, by rw [hn]; rfl⟩
  | string s => exact plain_ofString s
  | null => exact .null

theorem readable_toJson (h : l.Faithful) : l.toJson.readable = true := by
  cases l with
  | bool b => rfl
  | int n =>
    have hrange := Numeral.isSome_float?_intNumeral (n < 0) (natAbs_lt_of_isInt h)
    simpa [toJson, ofInt, readable, Numeral.ofLexeme?_intLexeme] using hrange
  | float x =>
    rw [toJson, readable, h]
    rfl
  | string s => exact readable_ofString s
  | null => rfl

/-- An integer that is read is in range. -/
theorem isInt_of_ofJson? {j : Json} {n : Int} (h : Literal.ofJson? j = some (int n)) :
    isInt n = true := by
  unfold Literal.ofJson? at h
  split at h
  · cases h
  · cases h
  · obtain ⟨s, -, h⟩ := Option.map_eq_some_iff.mp h
    cases h
  · simp only [Option.bind_eq_bind, Option.bind_eq_some_iff] at h
    obtain ⟨numeral, -, h⟩ := h
    split at h
    · next value hvalue =>
      cases h
      exact (Option.filter_eq_some_iff.mp hvalue).2
    · obtain ⟨x, -, h⟩ := Option.map_eq_some_iff.mp h
      cases h
  · cases h

/-- A literal that is read is kept by a text, unless it is a floating-point number that is not. -/
theorem faithful_of_ofJson? {j : Json} (h : Literal.ofJson? j = some l)
    (hfloat : ∀ x, l = float x → (float x).Faithful) : l.Faithful := by
  cases l with
  | int n => exact isInt_of_ofJson? h
  | float x => exact hfloat x rfl
  | _ => trivial

end Literal

/-! ## Patterns -/

namespace Pattern

variable {p : Pattern}

/-- The literal of the pattern, if there is one, is kept by a text. -/
def Faithful (p : Pattern) : Prop := ∀ l ∈ p.literal?, l.Faithful

/-- A pattern that is written is read from its kind and its other fields. -/
theorem ofValue?_ofFields (names : List String) {kind : String} {fields : List (String × Json)}
    (hkind : fieldNames? kind = some names) (hnames : fields.map (·.1) = names)
    (hnodup : ("kind" :: names).Nodup) :
    ofValue? (ofFields (("kind", ofString kind) :: fields)) =
      ofFields? kind (fields.map (some ·.2)) := by
  subst hnames
  have hfield : field? (("kind", ofString kind) :: fields) "kind" = some (some (ofString kind)) :=
    field?_of_mem hnodup List.mem_cons_self
  have hvalues := objectFields?_of_subset (List.subset_cons_self ("kind", ofString kind) fields)
    hnodup
  have hstring : string? (ofString kind) = some kind := Piece.string?_ofString kind
  show ofValue? (.object (List.map (fun f : String × Json => (Piece.ofString f.1, f.2)) _)) = _
  rw [ofValue?, keyed?_map]
  simp only [Option.bind_eq_bind, Option.bind_some, hfield, required?, hstring, hkind, hvalues]

theorem ofValue?_toJson (h : p.Faithful) : Pattern.ofValue? p.toJson = some p := by
  have htype (type : Option TypeRef) :
      optional? TypeRef.ofValue? (some (ofOption TypeRef.toJson type)) = some type :=
    optional?_ofOption TypeRef.toJson_ne_null fun t _ => t.ofValue?_toJson
  cases p with
  | discard => exact ofValue?_ofFields [] rfl rfl (by decide)
  | literal value type =>
    rw [toJson, ofValue?_ofFields ["value", "ty"] rfl rfl (by decide)]
    simp [ofFields?, required?, Literal.ofJson?_toJson (h value rfl), htype]
  | typeTest type binding =>
    rw [toJson, ofValue?_ofFields ["ty", "binding"] rfl rfl (by decide)]
    simp [ofFields?, htype, optional?_string]

theorem readable_toJson (h : p.Faithful) : p.toJson.readable = true := by
  have htype (type : Option TypeRef) : (ofOption TypeRef.toJson type).readable = true :=
    readable_ofOption fun t _ => t.readable_toJson
  cases p with
  | discard => exact readable_ofFields (by simp [readable_ofString])
  | literal value type =>
    have hvalue := Literal.readable_toJson (h value rfl)
    exact readable_ofFields (by simp [readable_ofString, hvalue, htype])
  | typeTest type binding =>
    have hbinding := readable_ofOption (x := binding) fun s _ => readable_ofString s
    exact readable_ofFields (by simp [readable_ofString, htype, hbinding])

theorem plain_toJson (h : p.Faithful) : p.toJson.Plain := by
  have htype (type : Option TypeRef) : (ofOption TypeRef.toJson type).Plain :=
    plain_ofOption fun t _ => t.plain_toJson
  cases p with
  | discard => exact plain_ofFields (by simp [plain_ofString])
  | literal value type =>
    have hvalue := Literal.plain_toJson (h value rfl)
    exact plain_ofFields (by simp [plain_ofString, hvalue, htype])
  | typeTest type binding =>
    exact plain_ofFields (by simp [plain_ofString, htype, plain_optionString])

theorem one_le_depth_toJson (p : Pattern) : 1 ≤ p.toJson.depth := by
  cases p <;> simp [toJson, ofFields, depth]

theorem ofJson?_toJson (room : Nat) (h : p.Faithful) :
    Pattern.ofJson? room p.toJson = if p.toJson.depth ≤ room then some p else none := by
  simp [ofJson?, sound, readable_toJson h, ofValue?_toJson h]

/-- The literal of a pattern that is read was read from a value. -/
theorem exists_literal_of_ofJson? {room : Nat} {j : Json} (h : Pattern.ofJson? room j = some p)
    {l : Literal} (hl : l ∈ p.literal?) : ∃ value, Literal.ofJson? value = some l := by
  have hfields {kind : String} {fields : List (Option Json)}
      (h : ofFields? kind fields = some p) : ∃ value, Literal.ofJson? value = some l := by
    unfold ofFields? at h
    split at h
    · cases h
      cases hl
    · split at h
      · simp only [Option.bind_eq_bind, Option.bind_eq_some_iff] at h
        obtain ⟨value, hvalue, type, -, h⟩ := h
        cases h
        cases hl
        obtain ⟨j, -, hj⟩ := Option.bind_eq_some_iff.mp hvalue
        exact ⟨j, hj⟩
      · simp only [Option.bind_eq_bind, Option.bind_eq_some_iff] at h
        obtain ⟨type, -, binding, -, h⟩ := h
        cases h
        cases hl
    · cases h
  unfold ofJson? at h
  split at h
  · unfold ofValue? at h
    split at h
    · simp only [Option.bind_eq_bind, Option.bind_eq_some_iff] at h
      obtain ⟨_, -, _, -, _, -, _, -, _, -, h⟩ := h
      exact hfields h
    · simp only [Option.bind_eq_bind, Option.bind_eq_some_iff] at h
      obtain ⟨_, -, _, -, _, -, h⟩ := h
      exact hfields h
    · cases h
  · cases h

end Pattern

/-! ## Spans -/

namespace Span

variable {s : Span}

/-- Both offsets can be written. -/
def InRange (s : Span) : Prop := s.start < offsetLimit ∧ s.stop < offsetLimit

theorem offset?_ofInt {n : Nat} (h : n < offsetLimit) : offset? (ofInt n) = some n := by
  simp only [ofInt, offset?, Numeral.ofLexeme?_intLexeme, Option.bind_eq_bind, Option.bind_some]
  rw [if_pos] <;> simp [Numeral.integral, Numeral.floor, h]

theorem ofJson?_toJson (h : s.InRange) : Span.ofJson? s.toJson = some s := by
  have hfields : record? ["start", "end"] s.toJson =
      some [some (ofInt s.start), some (ofInt s.stop)] := record?_ofFields rfl (by decide)
  rw [ofJson?, hfields]
  simp [required?, offset?_ofInt h.1, offset?_ofInt h.2]

theorem plain_toJson (s : Span) : s.toJson.Plain := by
  have hoffset (n : Nat) : (ofInt n).Plain := .number (isLexeme_intLexeme n)
  exact plain_ofFields (by simp [hoffset])

theorem depth_toJson (s : Span) : s.toJson.depth = 1 := rfl

/-- The offsets that are read are in range. -/
theorem inRange_of_ofJson? {j : Json} (h : Span.ofJson? j = some s) : s.InRange := by
  have hoffset {field : Option Json} {n : Nat} (h : required? offset? field = some n) :
      n < offsetLimit := by
    obtain ⟨value, -, h⟩ := Option.bind_eq_some_iff.mp h
    unfold offset? at h
    split at h
    · simp only [Option.bind_eq_bind, Option.bind_eq_some_iff] at h
      obtain ⟨numeral, -, h⟩ := h
      split at h
      · next hn =>
        cases h
        exact hn.2.2
      · cases h
    · cases h
  obtain ⟨fields, -, h⟩ := Option.bind_eq_some_iff.mp h
  split at h
  · simp only [Option.bind_eq_bind, Option.bind_eq_some_iff] at h
    obtain ⟨start, hstart, stop, hstop, h⟩ := h
    cases h
    exact ⟨hoffset hstart, hoffset hstop⟩
  · cases h

end Span

end MatchCover
