import ClusterHealth.Proofs.Report.EnvelopeLaws
import Mathlib.Data.List.Forall2

/-!
What a check comes to, as a relation between a document and the value that is made of it. The relation
says all that a check can do, so what holds of checked values is shown by its cases.
-/

namespace ClusterHealth

theorem allOf_mapIdx_eq_ok_iff {f : Nat → α → Checked β} {R : α → β → Prop}
    (h : ∀ i a b, f i a = .ok b ↔ R a b) {as : List α} {bs : List β} :
    allOf (as.mapIdx f) = .ok bs ↔ List.Forall₂ R as bs := by
  induction as generalizing f bs with
  | nil =>
    rw [List.forall₂_nil_left_iff, List.mapIdx_nil, allOf, Except.ok.injEq, eq_comm]
  | cons a as ih =>
    have hrest {bs} : allOf (as.mapIdx fun i => f (i + 1)) = .ok bs ↔ List.Forall₂ R as bs :=
      ih fun i => h (i + 1)
    simp only [List.mapIdx_cons, allOf, both_eq_ok_iff, hrest, h, List.forall₂_cons_left_iff]
    grind

theorem exists_mem_of_forall₂ {R : α → β → Prop} {as : List α} {bs : List β} {b : β}
    (h : List.Forall₂ R as bs) (hb : b ∈ bs) : ∃ a ∈ as, R a b := by
  obtain ⟨i, hi, rfl⟩ := List.getElem_of_mem hb
  have hlt : i < as.length := h.length_eq ▸ hi
  exact ⟨as[i], List.getElem_mem hlt, h.get hlt hi⟩

namespace Report

open Entries (get?)

def given? (f : Field) (ms : Members) : Option Json := (givenName? f ms).bind fun name => ms.get? name

def fieldNames (fields : List Field) : List AnyText := fields.map fun f => .plain f.1

def readNames (fields : List Field) (ms : Members) : List AnyText :=
  fields.filterMap fun f => (givenName? f ms).map .plain

def unknownMembers (fields : List Field) (ms : Members) : Members :=
  ms.filter fun m => !(readNames fields ms).contains m.1

def freeMembers (ms : Members) : List (AnyText × Value) := ms.map fun (name, v) => (name, .free v)

mutual

inductive Shape.Reads : Shape → Json → Value → Prop
  | text : checkText v = .ok s → Shape.Reads .text v (.text s)
  | noText : Shape.Reads .optionalText .null .absent
  | someText : checkText v = .ok s → Shape.Reads .optionalText v (.text s)
  | decimal : checkDecimal v = .ok x → Shape.Reads .decimal v (.decimal x)
  | whole : checkWhole v = .ok n → Shape.Reads .whole v (.whole n)
  | noTime : Shape.Reads .optionalTime .null .absent
  | someTime : Timestamp.ofJson v = .ok t → Shape.Reads .optionalTime v (.time t)
  | free : Shape.Reads .free v (.free v)
  | mapping : Shape.Reads .mapping (.obj ms) (.mapping ms)
  -- The items are paired by hand: `List.Forall₂` of a shape that is local to the case is no nested type.
  | list : vs.length = xs.length → (∀ {v x}, (v, x) ∈ vs.zip xs → Shape.Reads item v x) →
      Shape.Reads (.list item) (.arr vs) (.list xs)
  | object : namesPlain ms = true → FieldsRead fields ms declared →
      Shape.Reads (.object fields) (.obj ms)
        (.object (declared ++ freeMembers (unknownMembers fields ms)))

inductive FieldsRead : List (String × List String × Shape) → Members → List (AnyText × Value) → Prop
  | nil : FieldsRead [] ms []
  | given : given? (name, others, shape) ms = some v → Shape.Reads shape v x →
      FieldsRead fields ms declared →
      FieldsRead ((name, others, shape) :: fields) ms ((name, x) :: declared)
  | missing : given? (name, others, shape) ms = none → FieldsRead fields ms declared →
      FieldsRead ((name, others, shape) :: fields) ms ((name, shape.default) :: declared)

end

section Fields

variable {f : Field} {ms : Members} {name : String} {v : Json} {x : Value} {path : List String}

theorem exists_mem_of_given (h : given? f ms = some v) : ∃ name : AnyText, (name, v) ∈ ms := by
  obtain ⟨name, -, hget⟩ := Option.bind_eq_some_iff.1 h
  obtain ⟨m, hm, rfl⟩ := Option.map_eq_some_iff.1 hget
  exact ⟨m.1, List.mem_of_find?_eq_some hm⟩

theorem get?_of_givenName (h : givenName? f ms = some name) : ∃ v, ms.get? name = some v := by
  have hany := List.find?_some h
  rw [Entries.any_eq_isSome_get?] at hany
  exact Option.isSome_iff_exists.1 hany

theorem fieldValue_eq_ok_iff : fieldValue path ms f = .ok x ↔
    (∃ name v, givenName? f ms = some name ∧ given? f ms = some v ∧
      f.2.2.check (path ++ [name]) v = .ok x) ∨ given? f ms = none ∧ x = f.2.2.default := by
  cases hname : givenName? f ms with
  | none => simp [fieldValue, given?, hname, eq_comm]
  | some name =>
    obtain ⟨v, hv⟩ := get?_of_givenName hname
    simp [fieldValue, given?, hname, hv]

end Fields

section Optional

variable {f : Json → Except FieldErrorKind Value} {v : Json} {x : Value}

theorem optional_eq_ok_iff (hnull : ∀ x, f .null ≠ .ok x) :
    optional f v = .ok x ↔ v = .null ∧ x = .absent ∨ f v = .ok x := by
  cases v <;> simp [optional, hnull, eq_comm]

theorem checkMapping_eq_ok_iff {ms : Members} : checkMapping v = .ok ms ↔ v = .obj ms := by
  cases v <;> simp [checkMapping]

end Optional

section Structured

variable {item : Shape} {fields : List Field} {path : List String} {v : Json} {x : Value}

theorem check_list_eq_ok_iff : (Shape.list item).check path v = .ok x ↔
    ∃ vs, v = .arr vs ∧
      ∃ xs, allOf (vs.mapIdx fun i v => item.check (path ++ [toString i]) v) = .ok xs ∧
        .list xs = x := by
  rw [Shape.check.eq_def]
  cases v <;> simp [map_eq_ok_iff, refuse]

theorem check_object_eq_ok_iff : (Shape.object fields).check path v = .ok x ↔
    ∃ ms, v = .obj ms ∧ namesPlain ms = true ∧
      ∃ declared, checkFields path ms fields = .ok declared ∧
      .object (declared ++ freeMembers (unknownMembers fields ms)) = x := by
  have hextras (ms : Members) : extras fields ms = freeMembers (unknownMembers fields ms) := rfl
  rw [Shape.check.eq_def]
  cases v with
  | obj ms =>
    cases hplain : namesPlain ms <;> simp [hplain, map_eq_ok_iff, refuse, hextras]
  | _ => simp [refuse]

theorem reads_list_iff : (Shape.list item).Reads v x ↔
    ∃ vs, v = .arr vs ∧ ∃ xs, List.Forall₂ item.Reads vs xs ∧ .list xs = x := by
  constructor
  · intro h
    cases h with
    | list hlength hitems => exact ⟨_, rfl, _, List.forall₂_iff_zip.2 ⟨hlength, hitems⟩, rfl⟩
  · rintro ⟨vs, rfl, xs, hitems, rfl⟩
    obtain ⟨hlength, hitems⟩ := List.forall₂_iff_zip.1 hitems
    exact .list hlength hitems

theorem reads_object_iff : (Shape.object fields).Reads v x ↔
    ∃ ms, v = .obj ms ∧ namesPlain ms = true ∧ ∃ declared, FieldsRead fields ms declared ∧
      .object (declared ++ freeMembers (unknownMembers fields ms)) = x := by
  constructor
  · intro h
    cases h with
    | object hplain hfields => exact ⟨_, rfl, hplain, _, hfields, rfl⟩
  · rintro ⟨ms, rfl, hplain, declared, hfields, rfl⟩
    exact .object hplain hfields

end Structured

mutual

theorem check_eq_ok_iff (s : Shape) {path : List String} {v : Json} {x : Value} :
    s.check path v = .ok x ↔ s.Reads v x := by
  match s with
  | .text | .decimal | .whole =>
    rw [Shape.check, placed_eq_ok_iff, map_eq_ok_iff]
    constructor
    · rintro ⟨a, ha, rfl⟩
      constructor
      exact ha
    · intro h
      cases h
      exact ⟨_, ‹_›, rfl⟩
  | .optionalText =>
    rw [Shape.check, placed_eq_ok_iff, optional_eq_ok_iff (by simp [checkText, Except.map]),
      map_eq_ok_iff]
    constructor
    · rintro (⟨rfl, rfl⟩ | ⟨t, ht, rfl⟩)
      · exact .noText
      · exact .someText ht
    · intro h
      cases h with
      | noText => exact .inl ⟨rfl, rfl⟩
      | someText ht => exact .inr ⟨_, ht, rfl⟩
  | .optionalTime =>
    rw [Shape.check, placed_eq_ok_iff, optional_eq_ok_iff (by simp [Timestamp.ofJson, Except.map]),
      map_eq_ok_iff]
    constructor
    · rintro (⟨rfl, rfl⟩ | ⟨t, ht, rfl⟩)
      · exact .noTime
      · exact .someTime ht
    · intro h
      cases h with
      | noTime => exact .inl ⟨rfl, rfl⟩
      | someTime ht => exact .inr ⟨_, ht, rfl⟩
  | .free =>
    rw [Shape.check, Except.ok.injEq]
    constructor
    · rintro rfl
      exact .free
    · rintro ⟨⟩
      rfl
  | .mapping =>
    rw [Shape.check, placed_eq_ok_iff, map_eq_ok_iff]
    simp only [checkMapping_eq_ok_iff]
    constructor
    · rintro ⟨ms, rfl, rfl⟩
      exact .mapping
    · rintro ⟨⟩
      exact ⟨_, rfl, rfl⟩
  | .list item =>
    -- Each item is checked at a place of its own, which makes no difference to what is read.
    have hitems {vs : List Json} {xs : List Value} :
        allOf (vs.mapIdx fun i v => item.check (path ++ [toString i]) v) = .ok xs ↔
          List.Forall₂ item.Reads vs xs := by
      refine allOf_mapIdx_eq_ok_iff fun i v x => ?_
      exact check_eq_ok_iff item
    simp only [check_list_eq_ok_iff, reads_list_iff, hitems]
  | .object fields =>
    simp only [check_object_eq_ok_iff, reads_object_iff, checkFields_eq_ok_iff fields]

theorem checkFields_eq_ok_iff (fields : List (String × List String × Shape)) {path : List String}
    {ms : Members} {declared : List (AnyText × Value)} :
    checkFields path ms fields = .ok declared ↔ FieldsRead fields ms declared := by
  match fields with
  | [] =>
    rw [checkFields, Except.ok.injEq]
    constructor
    · rintro rfl
      exact .nil
    · rintro ⟨⟩
      rfl
  | (name, others, shape) :: rest =>
    rw [checkFields_cons, both_eq_ok_iff]
    simp only [fieldValue_eq_ok_iff, checkFields_eq_ok_iff rest, check_eq_ok_iff shape]
    constructor
    · rintro ⟨x, declared, ⟨_, v, -, hgiven, hx⟩ | ⟨hnone, rfl⟩, hrest, rfl⟩
      · exact .given hgiven hx hrest
      · exact .missing hnone hrest
    · intro h
      cases h with
      | @given _ _ _ _ v x _ declared hgiven hx hrest =>
        obtain ⟨given, hname, -⟩ := Option.bind_eq_some_iff.1 hgiven
        exact ⟨x, declared, .inl ⟨given, v, hname, hgiven, hx⟩, hrest, rfl⟩
      | @missing _ _ _ _ _ declared hnone hrest =>
        exact ⟨shape.default, declared, .inr ⟨hnone, rfl⟩, hrest, rfl⟩

end

theorem HealthInfo.ofJson_eq_ok_iff {v : Json} {h : HealthInfo} :
    ofJson v = .ok h ↔ healthInfoShape.Reads v h.value := by
  rw [ofJson, map_eq_ok_iff]
  simp only [check_eq_ok_iff]
  constructor
  · rintro ⟨x, hx, rfl⟩
    exact hx
  · exact fun hx => ⟨h.value, hx, rfl⟩

end Report

end ClusterHealth
