import Mathlib.Data.Finset.Card
import Mathlib.Order.Bounds.Defs
import Mathlib.Order.Interval.Finset.Nat
import MatchCover.Fix.Suggestion
import MatchCover.Proofs.Fix.Filling

/-!
# Fresh names for bindings

Of as many numbers as there are taken names one makes a name free that is itself taken
(`exists_numbered_notMem`). So the search for a free name ends within its tries, and as long as the
numbers that it needs fit into 32 bits it ends with the least of them (`retry_numbered`). Digits at
the end of a name make neither a keyword of it nor something that is no identifier. So each of
several values in turn gets a usable name that is neither taken nor given to one before it.
-/

namespace MatchCover

namespace Binding

/-! ## Names with numbers -/

section
variable {base : String} {i j k : Nat}

theorem numbered_natCast : numbered base k = base ++ toString k := rfl

theorem toList_numbered : (numbered base k).toList = base.toList ++ Nat.toDigits 10 k := by
  rw [numbered_natCast, String.toList_append, Nat.toString_eq_repr, Nat.toList_repr]

theorem numbered_injective (h : numbered base i = numbered base j) : i = j := by
  have hdigits := congrArg String.toList h
  rw [toList_numbered, toList_numbered, List.append_right_inj] at hdigits
  rw [← Nat.ofDigitChars_ten_toDigits (n := i), hdigits, Nat.ofDigitChars_ten_toDigits]

theorem numbered_ne_base : numbered base k ≠ base := by
  intro h
  have hdigits := congrArg String.toList h
  rw [toList_numbered, List.append_right_eq_self] at hdigits
  exact Nat.toDigits_ne_nil hdigits

theorem isDigit_of_mem_toDigits {c : Char} (h : c ∈ Nat.toDigits 10 k) : c.isDigit = true :=
  Nat.isDigit_of_mem_toDigits (by decide) (by decide) h

theorem isIdentifierPart_of_isDigit {c : Char} (h : c.isDigit = true) :
    isIdentifierPart c = true := by
  have hnumeric : Text.isNumeric c = true := by
    obtain ⟨hlower, hupper⟩ : 48 ≤ c.toNat ∧ c.toNat ≤ 57 := by
      simpa [Char.isDigit, UInt32.le_iff_toNat_le] using h
    unfold Text.isNumeric Text.numericBounds
    rw [Text.inside, if_neg (by omega), decide_eq_true (by omega), Bool.true_or]
  rw [isIdentifierPart, hnumeric, Bool.or_true, Bool.true_or]

theorem isIdentifier_append {s digits : List Char} (hs : isIdentifier s = true)
    (hdigits : ∀ c ∈ digits, isIdentifierPart c = true) : isIdentifier (s ++ digits) = true := by
  cases s with
  | nil => cases hs
  | cons c s =>
    rw [isIdentifier, Bool.and_eq_true, List.all_eq_true] at hs
    rw [List.cons_append, isIdentifier, Bool.and_eq_true, List.all_append, Bool.and_eq_true,
      List.all_eq_true, List.all_eq_true]
    exact ⟨hs.1, hs.2, hdigits⟩

theorem isIdentifier_numbered (h : isIdentifier base.toList = true) :
    isIdentifier (numbered base k).toList = true := by
  rw [toList_numbered]
  exact isIdentifier_append h fun c hc => isIdentifierPart_of_isDigit (isDigit_of_mem_toDigits hc)

theorem forall_not_isDigit_of_mem_reservedWords :
    ∀ word ∈ reservedWords, word.toList.all (!Char.isDigit ·) = true := by
  decide +kernel

/-- No keyword ends with a number. -/
theorem isReserved_numbered : isReserved (numbered base k) = false := by
  rw [isReserved, decide_eq_false_iff_not]
  intro hmem
  obtain ⟨c, hc⟩ := List.exists_mem_of_ne_nil _ (Nat.toDigits_ne_nil (n := k) (b := 10))
  have hall := List.all_eq_true.mp (forall_not_isDigit_of_mem_reservedWords _ hmem)
  have hc' : c ∈ (numbered base k).toList := by
    rw [toList_numbered]
    exact List.mem_append_right _ hc
  simpa [isDigit_of_mem_toDigits hc] using hall c hc'

end

theorem isIdentifier_baseName (t : TypeRef) : isIdentifier (baseName t).toList = true := by
  unfold baseName
  dsimp only
  split
  · next h => rw [String.toList_ofList]; exact h.1
  · decide

theorem isReserved_baseName (t : TypeRef) : isReserved (baseName t) = false := by
  unfold baseName
  dsimp only
  split
  · next h => simpa using h.2
  · decide

/-! ## The search for a free name -/

/-- The name itself if it is free, or else with the least number from two on that makes it free. -/
inductive IsFirstFree (taken : List String) (base : String) : String → Prop where
  | base (hfree : base ∉ taken) : IsFirstFree taken base base
  | numbered {k : Nat} (htaken : base ∈ taken)
      (hleast : IsLeast {j : Nat | 2 ≤ j ∧ base ++ toString j ∉ taken} k) :
      IsFirstFree taken base (base ++ toString k)

section
variable {taken : List String} {base name : String} {k n : Nat}

/-- Of as many numbers as there are taken names one makes free a base that is itself taken. -/
theorem exists_numbered_notMem (h : base ∈ taken) :
    ∃ k : Nat, 2 ≤ k ∧ k ≤ taken.toFinset.card + 1 ∧ numbered base k ∉ taken := by
  let names : Finset String :=
    (Finset.Icc 2 (taken.toFinset.card + 1)).image fun k : Nat => numbered base k
  have hbase : base ∉ names := by
    simp [names, numbered_ne_base]
  have hnames : names.card = taken.toFinset.card := by
    rw [Finset.card_image_of_injOn fun _ _ _ _ hij => numbered_injective hij, Nat.card_Icc]
    omega
  have hcard : taken.toFinset.card < (insert base names).card := by
    rw [Finset.card_insert_of_notMem hbase, hnames]
    exact Nat.lt_succ_self _
  obtain ⟨name, hname, hfree⟩ := Finset.exists_mem_notMem_of_card_lt_card hcard
  rw [List.mem_toFinset] at hfree
  rcases Finset.mem_insert.mp hname with rfl | hname
  · exact absurd h hfree
  · obtain ⟨k, hk, rfl⟩ := Finset.mem_image.mp hname
    rw [Finset.mem_Icc] at hk
    exact ⟨k, hk.1, hk.2, hfree⟩

theorem exists_isLeast_free (h : base ∈ taken) :
    ∃ n ≤ taken.toFinset.card + 1, IsLeast {j : Nat | 2 ≤ j ∧ numbered base j ∉ taken} n := by
  obtain ⟨k, hk, hle, hfree⟩ := exists_numbered_notMem h
  have hexists : ∃ j : Nat, 2 ≤ j ∧ numbered base j ∉ taken := ⟨k, hk, hfree⟩
  have hmin (j : Nat) (hj : 2 ≤ j ∧ numbered base j ∉ taken) : Nat.find hexists ≤ j :=
    Nat.find_min' hexists hj
  exact ⟨Nat.find hexists, (hmin k ⟨hk, hfree⟩).trans hle, Nat.find_spec hexists, hmin⟩

/-- From a number on up to which all names are taken the search goes on to the first free one. -/
theorem retry_numbered {tries : Nat} (hk : k ≤ n) (hn : n < 2 ^ 31) (htries : n < k + tries)
    (htaken : ∀ j, k ≤ j → j < n → numbered base j ∈ taken) (hfree : numbered base n ∉ taken) :
    retry taken base tries (numbered base k) (Int32.ofNat (k + 1)) = some (numbered base n) := by
  induction tries generalizing k with
  | zero => omega
  | succ tries ih =>
    rcases Nat.eq_or_lt_of_le hk with rfl | hlt
    · rw [retry, if_neg hfree]
    · have hnext : (Int32.ofNat (k + 1)).toInt = (k + 1 : Nat) :=
        Int32.toInt_ofNat_of_lt (Nat.lt_of_le_of_lt hlt hn)
      rw [retry, if_pos (htaken k le_rfl hlt), hnext,
        ← ih hlt (by omega) fun j hj => htaken j (Nat.le_of_succ_le hj), Int32.ofNat_add (k + 1) 1]
      rfl

/-- The search ends where fewer than `2 ^ 31` names are in use, with the one it looks for. -/
theorem exists_isFirstFree (base : String) (hcard : taken.toFinset.card + 1 < 2 ^ 31) :
    ∃ name, retry taken base (taken.length + 1) base 2 = some name ∧
      IsFirstFree taken base name := by
  by_cases htaken : base ∈ taken
  · obtain ⟨n, hn, hleast⟩ := exists_isLeast_free htaken
    have hlength : taken.toFinset.card ≤ taken.length := List.toFinset_card_le _
    have hbefore (j : Nat) (hj : 2 ≤ j) (hlt : j < n) : numbered base j ∈ taken := by
      by_contra hfree
      exact absurd (hleast.2 ⟨hj, hfree⟩) (by omega)
    refine ⟨numbered base n, ?_, .numbered htaken hleast⟩
    rw [retry, if_pos htaken]
    exact retry_numbered (k := 2) hleast.1.1 (by omega) (by omega) hbefore hleast.1.2
  · exact ⟨base, by rw [retry, if_neg htaken], .base htaken⟩

/-- The search as it goes on without a count of its tries: it stops at a free name, and from a taken
one it goes on to the base with the next number. -/
inductive Finds (taken : List String) (base : String) : String → Int32 → String → Prop where
  | stop {name : String} {i : Int32} (hfree : name ∉ taken) : Finds taken base name i name
  | next {name found : String} {i : Int32} (htaken : name ∈ taken)
      (hrest : Finds taken base (numbered base i.toInt) (i + 1) found) :
      Finds taken base name i found

theorem finds_of_retry {tries : Nat} {i : Int32} {found : String}
    (h : retry taken base tries name i = some found) : Finds taken base name i found := by
  induction tries generalizing name i with
  | zero => cases h
  | succ tries ih =>
    rw [retry] at h
    split at h
    · next htaken => exact .next htaken (ih h)
    · next hfree =>
      cases h
      exact .stop hfree

namespace IsFirstFree

theorem notMem (h : IsFirstFree taken base name) : name ∉ taken := by
  cases h with
  | base hfree => exact hfree
  | numbered _ hleast => exact hleast.1.2

theorem isIdentifier (h : IsFirstFree taken base name)
    (hbase : isIdentifier base.toList = true) : isIdentifier name.toList = true := by
  cases h with
  | base => exact hbase
  | numbered => exact isIdentifier_numbered hbase

theorem isReserved (h : IsFirstFree taken base name) (hbase : isReserved base = false) :
    isReserved name = false := by
  cases h with
  | base => exact hbase
  | numbered => exact isReserved_numbered

end IsFirstFree

end

/-! ## Names in turn -/

/-- The search for a name for a value of the type ends with this name. It can be used, is not taken,
and is the first such spelling of the base. -/
structure IsFresh (taken : List String) (t : TypeRef) (name : String) : Prop where
  search : Finds taken (baseName t) (baseName t) 2 name
  identifier : isIdentifier name.toList = true
  notReserved : isReserved name = false
  free : name ∉ taken
  first : IsFirstFree taken (baseName t) name

/-- Each of the types in turn gets a fresh name, which is taken from then on. -/
inductive NamedInTurn : (taken : List String) → List TypeRef → List String → Prop where
  | nil (taken : List String) : NamedInTurn taken [] []
  | cons {taken names : List String} {t : TypeRef} {ts : List TypeRef} {name : String}
      (hname : IsFresh taken t name) (hrest : NamedInTurn (name :: taken) ts names) :
      NamedInTurn taken (t :: ts) (name :: names)

section
variable {taken names : List String} {ts : List TypeRef}

theorem length_namesFor (taken : List String) (ts : List TypeRef) :
    (namesFor taken ts).length = ts.length := by
  induction ts generalizing taken with
  | nil => rfl
  | cons t ts ih => rw [namesFor, List.length_cons, List.length_cons, ih]

theorem isFresh_nameFor (t : TypeRef) (hcard : taken.toFinset.card + 1 < 2 ^ 31) :
    IsFresh taken t (nameFor taken t) := by
  obtain ⟨name, hsearch, hfirst⟩ := exists_isFirstFree (baseName t) hcard
  have hname : nameFor taken t = name := by
    rw [nameFor, freeName, hsearch, Option.getD_some]
  rw [hname]
  exact ⟨finds_of_retry hsearch, hfirst.isIdentifier (isIdentifier_baseName t),
    hfirst.isReserved (isReserved_baseName t), hfirst.notMem, hfirst⟩

theorem namedInTurn_namesFor (hcard : taken.toFinset.card + ts.length < 2 ^ 31) :
    NamedInTurn taken ts (namesFor taken ts) := by
  induction ts generalizing taken with
  | nil => exact .nil taken
  | cons t ts ih =>
    rw [List.length_cons] at hcard
    refine .cons (isFresh_nameFor t (by omega)) (ih ?_)
    have hle : (nameFor taken t :: taken).toFinset.card ≤ taken.toFinset.card + 1 := by
      rw [List.toFinset_cons]
      exact Finset.card_insert_le _ _
    omega

namespace NamedInTurn

theorem notMem (h : NamedInTurn taken ts names) : ∀ name ∈ names, name ∉ taken := by
  induction h with
  | nil => simp
  | cons hname _ ih =>
    rw [List.forall_mem_cons]
    exact ⟨hname.free, fun name hmem htaken => ih name hmem (List.mem_cons_of_mem _ htaken)⟩

theorem nodup (h : NamedInTurn taken ts names) : names.Nodup := by
  induction h with
  | nil => exact .nil
  | cons _ hrest ih =>
    exact List.nodup_cons.mpr ⟨fun hmem => hrest.notMem _ hmem List.mem_cons_self, ih⟩

end NamedInTurn

end

end Binding

/-! ## Bindings of added arms -/

namespace Fix

open Binding (NamedInTurn namesFor)
open Template (bindingPlace typePlace)
open Text (occurrences substitute)

/-- The text of an arm for a type and a binding: the template with the display of the type put in
its places and then the binding in those for it, both at once where the type makes no new place. -/
structure IsArmText (template : String) (t : TypeRef) (binding text : String) : Prop where
  inTurn : text.toList = substitute bindingPlace binding.toList
    (substitute typePlace t.display.toList template.toList)
  atOnce : occurrences bindingPlace (substitute typePlace t.display.toList template.toList) =
      occurrences bindingPlace template.toList →
    text.toList = Template.fill t.display.toList binding.toList template.toList

theorem isArmText_renderArm (template : String) (t : TypeRef) (binding : String) :
    IsArmText template t binding
      (String.ofList (Template.renderArm template.toList t binding.toList)) where
  inTurn := by rw [String.toList_ofList, Template.renderArm, TypeRef.display, String.toList_ofList]
  atOnce h := by
    rw [TypeRef.display, String.toList_ofList] at h ⊢
    rw [String.toList_ofList, Template.renderArm_eq_fill h]

theorem length_variantArms (m : MatchExpr) (missing : List TypeRef) (template : String) :
    (variantArms m missing template).length = missing.length := by
  rw [variantArms, List.length_zipWith, Binding.length_namesFor, Nat.min_self]

/-- Each missing variant has a text, with the binding that was found for it. -/
theorem forall₂_variantArms (m : MatchExpr) (missing : List TypeRef) (template : String) :
    List.Forall₂ (fun p text => IsArmText template p.1 p.2 text)
      (missing.zip (namesFor (boundNames m) missing)) (variantArms m missing template) := by
  rw [variantArms, ← List.map_uncurry_zip_eq_zipWith, List.forall₂_map_right_iff,
    List.forall₂_same]
  exact fun p _ => isArmText_renderArm template p.1 p.2

theorem suggest_of_arms {m : MatchExpr} {missing : List TypeRef} {style : FixStyle}
    (h : style.prefer = .arms) :
    (suggest m missing style).action = .addVariantArms missing ∧
      (suggest m missing style).arms = variantArms m missing style.armTemplate := by
  simp [suggest, h]

theorem mem_boundNames {m : MatchExpr} {name : String} :
    name ∈ boundNames m ↔ ∃ arm ∈ m.arms, arm.pattern.binding? = some name := by
  rw [boundNames, List.mem_eraseDups, List.mem_filterMap]

/-- As long as fewer than `2 ^ 31` names are in use, types in turn get fresh names, whatever names
are taken at first. So the bindings of the arms that a fix adds are distinct from each other and
from those that the match has, and the text of each arm holds its type and its binding where the
template has places for them. -/
theorem bindings_are_fresh :
    (∀ (taken : List String) (ts : List TypeRef), taken.toFinset.card + ts.length < 2 ^ 31 →
      NamedInTurn taken ts (namesFor taken ts)) ∧
    ∀ (m : MatchExpr) (missing : List TypeRef) (style : FixStyle), style.prefer = .arms →
      (boundNames m).length + missing.length < 2 ^ 31 →
      ∃ bindings : List String, bindings = namesFor (boundNames m) missing ∧
        bindings.length = missing.length ∧
        (suggest m missing style).arms = missing.zipWith
          (fun t binding =>
            String.ofList (Template.renderArm style.armTemplate.toList t binding.toList))
          bindings ∧
        List.Forall₂ (fun p text => IsArmText style.armTemplate p.1 p.2 text)
          (missing.zip bindings) (suggest m missing style).arms ∧
        bindings.Nodup ∧
        ∀ arm ∈ m.arms, ∀ t binding, arm.pattern = .typeTest t (some binding) →
          binding ∉ bindings := by
  refine ⟨fun taken ts hcard => Binding.namedInTurn_namesFor hcard, ?_⟩
  intro m missing style hstyle hcard
  have hbound : (boundNames m).toFinset.card ≤ (boundNames m).length := List.toFinset_card_le _
  have hnames : NamedInTurn (boundNames m) missing (namesFor (boundNames m) missing) :=
    Binding.namedInTurn_namesFor (by omega)
  have harms : (suggest m missing style).arms = variantArms m missing style.armTemplate :=
    (suggest_of_arms hstyle).2
  refine ⟨_, rfl, Binding.length_namesFor _ _, harms, ?_, hnames.nodup, ?_⟩
  · rw [harms]
    exact forall₂_variantArms m missing style.armTemplate
  · intro arm harm t binding hpattern hmem
    refine hnames.notMem binding hmem (mem_boundNames.mpr ⟨arm, harm, ?_⟩)
    rw [hpattern, Pattern.binding?]

/-- A number makes of one name what another is already, and keywords share one name. -/
theorem bindings_are_fresh_of_collisions :
    ∃ (taken : List String) (ts : List TypeRef) (m : MatchExpr) (style : FixStyle)
        (bindings : List String),
      taken = ["notFound", "notFound3"] ∧
      ts = [.named "NotFound", .named "int", .named "App.NotFound2", .named "string",
        .named "App.NotFound"] ∧
      namesFor taken ts = ["notFound2", "value", "notFound22", "value2", "notFound4"] ∧
      NamedInTurn taken ts (namesFor taken ts) ∧
      m.arms.map (·.pattern) = [.typeTest (some (.named "Saved")) (some "notFound"),
        .literal (.int 0) (some (.named "int")), .typeTest none (some "value")] ∧
      style = {} ∧ bindings = namesFor (boundNames m) ts ∧
      (suggest m ts style).arms = ts.zipWith
        (fun t binding =>
          String.ofList (Template.renderArm style.armTemplate.toList t binding.toList))
        bindings ∧
      List.Forall₂ (fun p text => IsArmText style.armTemplate p.1 p.2 text) (ts.zip bindings)
        (suggest m ts style).arms ∧
      bindings.length = 5 ∧ bindings.Nodup ∧ "notFound" ∉ bindings ∧ "value" ∉ bindings := by
  let ts : List TypeRef := [.named "NotFound", .named "int", .named "App.NotFound2",
    .named "string", .named "App.NotFound"]
  let saved : MatchArm := ⟨.typeTest (some (.named "Saved")) (some "notFound"), none, none⟩
  let zero : MatchArm := ⟨.literal (.int 0) (some (.named "int")), none, none⟩
  let rest : MatchArm := ⟨.typeTest none (some "value"), none, none⟩
  let m : MatchExpr := ⟨.named "SaveResult", none, [saved, zero, rest], none⟩
  have hbases : ts.map Binding.baseName =
      ["notFound", "value", "notFound2", "value", "notFound"] := by
    decide +kernel
  have hnames : namesFor ["notFound", "notFound3"] ts =
      ["notFound2", "value", "notFound22", "value2", "notFound4"] := by
    simp only [ts, List.map_cons, List.cons.injEq] at hbases
    obtain ⟨h₁, h₂, h₃, h₄, h₅, -⟩ := hbases
    simp only [ts, namesFor, Binding.nameFor, h₁, h₂, h₃, h₄, h₅]
    cbv
  have hturn := bindings_are_fresh.1 ["notFound", "notFound3"] ts (by decide)
  obtain ⟨bindings, hbindings, hlength, harms, htexts, hnodup, hnew⟩ :=
    bindings_are_fresh.2 m ts {} rfl (by decide)
  exact ⟨_, ts, m, {}, bindings, rfl, rfl, hnames, hturn, rfl, rfl, hbindings, harms, htexts,
    hlength, hnodup, hnew saved (by decide) _ _ rfl, hnew rest (by decide) _ _ rfl⟩

end Fix

end MatchCover
