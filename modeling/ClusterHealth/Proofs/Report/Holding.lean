import ClusterHealth.Proofs.Report.Calendar
import ClusterHealth.Proofs.Report.Reading

namespace ClusterHealth

mutual

def Json.allFinite : Json → Bool
  | .float x => x.isFinite
  | .arr items => Json.itemsFinite items
  | .obj members => Json.membersFinite members
  | _ => true

def Json.itemsFinite : List Json → Bool
  | [] => true
  | v :: rest => v.allFinite && Json.itemsFinite rest

def Json.membersFinite : List (AnyText × Json) → Bool
  | [] => true
  | (_, v) :: rest => v.allFinite && Json.membersFinite rest

end

theorem Json.itemsFinite_iff {vs : List Json} :
    Json.itemsFinite vs = true ↔ ∀ v ∈ vs, v.allFinite = true := by
  induction vs with
  | nil => simp [Json.itemsFinite]
  | cons v vs ih => simp [Json.itemsFinite, ih]

theorem Json.membersFinite_iff {ms : Members} :
    Json.membersFinite ms = true ↔ ∀ m ∈ ms, m.2.allFinite = true := by
  induction ms with
  | nil => simp [Json.membersFinite]
  | cons m ms ih => simp [Json.membersFinite, ih]

namespace Report

mutual

theorem allFinite_finite (v : Json) : (finite v).allFinite = true := by
  match v with
  | .null | .bool _ | .int _ | .str _ => rfl
  | .float x =>
    rw [finite]
    split
    · assumption
    · rfl
  | .arr vs => exact itemsFinite_finiteItems vs
  | .obj ms => exact membersFinite_finiteMembers ms

theorem itemsFinite_finiteItems (vs : List Json) : Json.itemsFinite (finiteItems vs) = true := by
  match vs with
  | [] => rfl
  | v :: rest =>
    exact Bool.and_eq_true_iff.2 ⟨allFinite_finite v, itemsFinite_finiteItems rest⟩

theorem membersFinite_finiteMembers (ms : List (AnyText × Json)) :
    Json.membersFinite (finiteMembers ms) = true := by
  match ms with
  | [] => rfl
  | (_, v) :: rest =>
    exact Bool.and_eq_true_iff.2 ⟨allFinite_finite v, membersFinite_finiteMembers rest⟩

end

mutual

theorem finite_of_allFinite (v : Json) (h : v.allFinite = true) : finite v = v := by
  match v with
  | .null | .bool _ | .int _ | .str _ => rfl
  | .float x => exact if_pos h
  | .arr vs => rw [finite, finiteItems_of_itemsFinite vs h]
  | .obj ms => rw [finite, finiteMembers_of_membersFinite ms h]

theorem finiteItems_of_itemsFinite (vs : List Json) (h : Json.itemsFinite vs = true) :
    finiteItems vs = vs := by
  match vs with
  | [] => rfl
  | v :: rest =>
    obtain ⟨hv, hrest⟩ := Bool.and_eq_true_iff.1 h
    rw [finiteItems, finite_of_allFinite v hv, finiteItems_of_itemsFinite rest hrest]

theorem finiteMembers_of_membersFinite (ms : List (AnyText × Json))
    (h : Json.membersFinite ms = true) : finiteMembers ms = ms := by
  match ms with
  | [] => rfl
  | (name, v) :: rest =>
    obtain ⟨hv, hrest⟩ := Bool.and_eq_true_iff.1 h
    rw [finiteMembers, finite_of_allFinite v hv, finiteMembers_of_membersFinite rest hrest]

end

theorem membersFinite_lossyNames {ms : Members} (h : Json.membersFinite ms = true) :
    Json.membersFinite (lossyNames ms) = true :=
  Json.membersFinite_iff.2 fun m hm => by
    obtain ⟨e, he, rfl⟩ := List.mem_map.1 hm
    exact Json.membersFinite_iff.1 h e he

mutual

inductive Shape.Holds : Shape → Value → Prop
  | text : Shape.Holds .text (.text s)
  | noText : Shape.Holds .optionalText .absent
  | someText : Shape.Holds .optionalText (.text s)
  | decimal : Shape.Holds .decimal (.decimal x)
  | whole : Shape.Holds .whole (.whole n)
  | noTime : Shape.Holds .optionalTime .absent
  | someTime : t.Valid → Shape.Holds .optionalTime (.time t)
  | free : v.allFinite = true → Shape.Holds .free (.free v)
  | mapping : Json.membersFinite ms = true → Shape.Holds .mapping (.mapping ms)
  | list : (∀ v ∈ vs, Shape.Holds item v) → Shape.Holds (.list item) (.list vs)
  | object : FieldsHold fields declared →
      (∀ m ∈ others, m.2.allFinite = true ∧ m.1.isPlain = true ∧ m.1 ∉ fieldNames fields) →
      Shape.Holds (.object fields) (.object (declared ++ freeMembers others))

inductive FieldsHold : List (String × List String × Shape) → List (AnyText × Value) → Prop
  | nil : FieldsHold [] []
  | cons : Shape.Holds shape v → FieldsHold fields declared →
      FieldsHold ((name, others, shape) :: fields) ((.plain name, v) :: declared)

end

mutual

theorem holds_default (s : Shape) : s.Holds s.default := by
  match s with
  | .text => exact .text
  | .optionalText => exact .noText
  | .decimal => exact .decimal
  | .whole => exact .whole
  | .optionalTime => exact .noTime
  | .free => exact .free rfl
  | .mapping => exact .mapping rfl
  | .list _ => exact .list (by simp)
  | .object fields =>
    have hnone : ∀ m ∈ ([] : Members), m.2.allFinite = true ∧ m.1.isPlain = true ∧
        m.1 ∉ fieldNames fields := by simp
    rw [Shape.default]
    simpa [freeMembers] using Shape.Holds.object (fieldsHold_default fields) hnone

theorem fieldsHold_default (fields : List (String × List String × Shape)) :
    FieldsHold fields (fieldDefaults fields) := by
  match fields with
  | [] => exact .nil
  | (name, others, shape) :: rest => exact .cons (holds_default shape) (fieldsHold_default rest)

end

theorem givenName?_of_mem {f : Field} {ms : Members} (h : .plain f.1 ∈ Entries.names ms) :
    givenName? f ms = some f.1 := by
  have hany : ms.any (·.1 == .plain f.1) = true := by
    obtain ⟨m, hm, hname⟩ := List.mem_map.1 h
    exact List.any_eq_true.2 ⟨m, hm, by simpa using hname⟩
  rw [givenName?, List.find?_cons, hany]

/-- A name that a field is written under is never left to what the fields do not know. -/
theorem not_mem_names_of_mem_unknown {fields : List Field} {ms : Members} {m : AnyText × Json}
    (hm : m ∈ unknownMembers fields ms) : m.1 ∉ fieldNames fields := by
  intro hname
  obtain ⟨f, hf, hfm⟩ := List.mem_map.1 hname
  obtain ⟨hmem, hunread⟩ := List.mem_filter.1 hm
  have hgiven : givenName? f ms = some f.1 := givenName?_of_mem (hfm ▸ List.mem_map_of_mem hmem)
  have hread : m.1 ∈ readNames fields ms := List.mem_filterMap.2 ⟨f, hf, by rw [hgiven, ← hfm]; rfl⟩
  simp [hread] at hunread

theorem allFinite_of_mem_unknown {fields : List Field} {ms : Members} {m : AnyText × Json}
    (hms : Json.membersFinite ms = true) (hm : m ∈ unknownMembers fields ms) : m.2.allFinite = true :=
  Json.membersFinite_iff.1 hms m (List.mem_filter.1 hm).1

theorem isPlain_of_mem_unknown {fields : List Field} {ms : Members} {m : AnyText × Json}
    (hms : namesPlain ms = true) (hm : m ∈ unknownMembers fields ms) : m.1.isPlain = true :=
  List.all_eq_true.1 hms m (List.mem_filter.1 hm).1

theorem allFinite_of_given {f : Field} {ms : Members} {v : Json} (hms : Json.membersFinite ms = true)
    (h : given? f ms = some v) : v.allFinite = true := by
  obtain ⟨name, hmem⟩ := exists_mem_of_given h
  exact Json.membersFinite_iff.1 hms _ hmem

mutual

theorem Shape.Reads.holds {s : Shape} {v : Json} {x : Value} (h : s.Reads v x)
    (hv : v.allFinite = true) : s.Holds x := by
  match s with
  | .text | .decimal | .whole | .optionalText =>
    cases h <;> constructor
  | .optionalTime =>
    cases h with
    | noTime => exact .noTime
    | someTime ht => exact .someTime (Timestamp.valid_of_ofJson ht)
  | .free =>
    cases h
    exact .free hv
  | .mapping =>
    cases h
    exact .mapping hv
  | .list item =>
    obtain ⟨vs, rfl, xs, hitems, rfl⟩ := reads_list_iff.1 h
    refine .list fun x hx => ?_
    obtain ⟨v, hmem, hread⟩ := exists_mem_of_forall₂ hitems hx
    exact hread.holds (Json.itemsFinite_iff.1 hv v hmem)
  | .object fields =>
    obtain ⟨ms, rfl, hplain, declared, hfields, rfl⟩ := reads_object_iff.1 h
    exact .object (hfields.holds hv) fun m hm => ⟨allFinite_of_mem_unknown hv hm,
      isPlain_of_mem_unknown hplain hm, not_mem_names_of_mem_unknown hm⟩

theorem FieldsRead.holds {fields : List (String × List String × Shape)} {ms : Members}
    {declared : List (AnyText × Value)} (h : FieldsRead fields ms declared)
    (hms : Json.membersFinite ms = true) : FieldsHold fields declared := by
  match fields with
  | [] =>
    cases h
    exact .nil
  | (name, others, shape) :: rest =>
    cases h with
    | given hgiven hx hrest =>
      exact .cons (hx.holds (allFinite_of_given hms hgiven)) (hrest.holds hms)
    | missing _ hrest => exact .cons (holds_default shape) (hrest.holds hms)

end

theorem holds_of_check (s : Shape) {path : List String} {v : Json} {x : Value}
    (hv : v.allFinite = true) (h : s.check path v = .ok x) : s.Holds x :=
  ((check_eq_ok_iff s).1 h).holds hv

section Held

variable {s : Shape} {v : Value} {fields : List Field} {declared : List (AnyText × Value)}

theorem Shape.Holds.eq_default (h : s.Holds v) (hv : v.isOmitted = true) : v = s.default := by
  cases h with
  | noText | noTime => rfl
  | @free w hw =>
    cases w with
    | null => rfl
    | _ => cases hv
  | _ => cases hv

theorem FieldsHold.names_eq (h : FieldsHold fields declared) :
    Entries.names declared = fieldNames fields := by
  induction fields generalizing declared with
  | nil =>
    cases h
    rfl
  | cons f fields ih =>
    cases h with
    | cons _ hrest => simpa [Entries.names, fieldNames] using ih hrest

end Held

end Report

end ClusterHealth
