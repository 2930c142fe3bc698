import ClusterHealth.Proofs.Report.Writing

namespace ClusterHealth

theorem Json.itemsDepth_le_iff {vs : List Json} {n : Nat} :
    Json.itemsDepth vs ≤ n ↔ ∀ v ∈ vs, v.depth ≤ n := by
  induction vs with
  | nil => simp [Json.itemsDepth]
  | cons v vs ih => rw [Json.itemsDepth, Nat.max_le, ih, List.forall_mem_cons]

theorem Json.membersDepth_le_iff {ms : Members} {n : Nat} :
    Json.membersDepth ms ≤ n ↔ ∀ m ∈ ms, m.2.depth ≤ n := by
  induction ms with
  | nil => simp [Json.membersDepth]
  | cons m ms ih => rw [Json.membersDepth, Nat.max_le, ih, List.forall_mem_cons]

namespace Report

mutual

/-- How deep a value of this shape nests, apart from the free data in it. -/
def Shape.height : Shape → Nat
  | .mapping => 1
  | .list item => item.height + 1
  | .object fields => fieldsHeight fields + 1
  | _ => 0

def fieldsHeight : List (String × List String × Shape) → Nat
  | [] => 0
  | (_, _, shape) :: rest => max shape.height (fieldsHeight rest)

end

mutual

theorem depth_finite (v : Json) : (finite v).depth = v.depth := by
  match v with
  | .null | .bool _ | .int _ | .str _ => rfl
  | .float x =>
    rw [finite]
    split <;> rfl
  | .arr vs => rw [finite, Json.depth, Json.depth, itemsDepth_finiteItems vs]
  | .obj ms => rw [finite, Json.depth, Json.depth, membersDepth_finiteMembers ms]

theorem itemsDepth_finiteItems (vs : List Json) :
    Json.itemsDepth (finiteItems vs) = Json.itemsDepth vs := by
  match vs with
  | [] => rfl
  | v :: rest =>
    rw [finiteItems, Json.itemsDepth, Json.itemsDepth, depth_finite v, itemsDepth_finiteItems rest]

theorem membersDepth_finiteMembers (ms : List (AnyText × Json)) :
    Json.membersDepth (finiteMembers ms) = Json.membersDepth ms := by
  match ms with
  | [] => rfl
  | (name, v) :: rest =>
    rw [finiteMembers, Json.membersDepth, Json.membersDepth, depth_finite v,
      membersDepth_finiteMembers rest]

end

theorem membersDepth_lossyNames (ms : Members) :
    Json.membersDepth (lossyNames ms) = Json.membersDepth ms := by
  induction ms with
  | nil => rfl
  | cons m ms ih => exact congrArg (max m.2.depth) ih

theorem itemsDepth_itemsToJson_le {vs : List Value} {n : Nat} (h : ∀ v ∈ vs, v.toJson.depth ≤ n) :
    Json.itemsDepth (itemsToJson vs) ≤ n := by
  rw [itemsToJson_eq_map, Json.itemsDepth_le_iff]
  simpa using h

theorem membersDepth_membersToJson_le {ms : List (AnyText × Value)} {n : Nat}
    (h : ∀ m ∈ ms, m.2.toJson.depth ≤ n) : Json.membersDepth (membersToJson ms) ≤ n := by
  refine Json.membersDepth_le_iff.2 fun m hm => ?_
  obtain ⟨a, ha, rfl⟩ := exists_of_mem_membersToJson hm
  exact h a ha

theorem depth_get?_le {ms : Members} {n : Nat} (h : Json.membersDepth ms ≤ n) (name : AnyText) :
    ((ms.get? name).getD .null).depth ≤ n := by
  cases hget : ms.get? name with
  | none => exact Nat.zero_le n
  | some v =>
    obtain ⟨m, hm, rfl⟩ := Option.map_eq_some_iff.1 hget
    exact Json.membersDepth_le_iff.1 h m (List.mem_of_find?_eq_some hm)

mutual

theorem depth_default_le (s : Shape) : s.default.toJson.depth ≤ s.height := by
  match s with
  | .text | .optionalText | .decimal | .whole | .optionalTime | .free | .mapping =>
    exact Nat.le_refl _
  | .list item => exact Nat.succ_le_succ (Nat.zero_le item.height)
  | .object fields =>
    rw [Shape.default, Value.toJson, Json.depth, Shape.height]
    exact Nat.succ_le_succ (membersDepth_membersToJson_le (depth_fieldDefaults_le fields))

theorem depth_fieldDefaults_le (fields : List (String × List String × Shape)) :
    ∀ m ∈ fieldDefaults fields, m.2.toJson.depth ≤ fieldsHeight fields := by
  match fields with
  | [] => simp [fieldDefaults]
  | (name, others, shape) :: rest =>
    intro m hm
    rw [fieldDefaults] at hm
    rw [fieldsHeight]
    obtain rfl | hm := List.mem_cons.1 hm
    · exact (depth_default_le shape).trans (Nat.le_max_left ..)
    · exact (depth_fieldDefaults_le rest m hm).trans (Nat.le_max_right ..)

end

mutual

theorem Shape.Reads.depth_le {s : Shape} {v : Json} {x : Value} {n : Nat} (h : s.Reads v x)
    (hs : s.height ≤ n) (hv : v.depth ≤ n) : x.toJson.depth ≤ n := by
  match s with
  | .text | .decimal | .whole | .optionalText | .optionalTime =>
    cases h <;> exact Nat.zero_le n
  | .free =>
    cases h
    rwa [Value.toJson, depth_finite]
  | .mapping =>
    cases h
    rwa [Value.toJson, Json.depth, membersDepth_finiteMembers, membersDepth_lossyNames]
  | .list item =>
    obtain ⟨vs, rfl, xs, hitems, rfl⟩ := reads_list_iff.1 h
    cases n with
    | zero => cases hs
    | succ n =>
      refine Nat.succ_le_succ (itemsDepth_itemsToJson_le fun x hx => ?_)
      obtain ⟨v, hmem, hread⟩ := exists_mem_of_forall₂ hitems hx
      exact hread.depth_le (Nat.le_of_succ_le_succ hs)
        (Json.itemsDepth_le_iff.1 (Nat.le_of_succ_le_succ hv) v hmem)
  | .object fields =>
    obtain ⟨ms, rfl, -, declared, hfields, rfl⟩ := reads_object_iff.1 h
    cases n with
    | zero => cases hs
    | succ n =>
      have hms := Nat.le_of_succ_le_succ hv
      refine Nat.succ_le_succ (membersDepth_membersToJson_le fun m hm => ?_)
      obtain hm | hm := List.mem_append.1 hm
      · exact hfields.depth_le (Nat.le_of_succ_le_succ hs) hms m hm
      · obtain ⟨e, he, rfl⟩ := List.mem_map.1 hm
        rw [Value.toJson, depth_finite]
        exact Json.membersDepth_le_iff.1 hms e (List.mem_filter.1 he).1

theorem FieldsRead.depth_le {fields : List (String × List String × Shape)} {ms : Members}
    {declared : List (AnyText × Value)} {n : Nat} (h : FieldsRead fields ms declared)
    (hfields : fieldsHeight fields ≤ n) (hms : Json.membersDepth ms ≤ n) :
    ∀ m ∈ declared, m.2.toJson.depth ≤ n := by
  match fields with
  | [] =>
    cases h
    simp
  | (name, others, shape) :: rest =>
    obtain ⟨hshape, hfields⟩ := Nat.max_le.1 hfields
    cases h with
    | given hgiven hx hrest =>
      obtain ⟨_, hmem⟩ := exists_mem_of_given hgiven
      exact List.forall_mem_cons.2
        ⟨hx.depth_le hshape (Json.membersDepth_le_iff.1 hms _ hmem), hrest.depth_le hfields hms⟩
    | missing _ hrest =>
      exact List.forall_mem_cons.2
        ⟨(depth_default_le shape).trans hshape, hrest.depth_le hfields hms⟩

end

end Report

end ClusterHealth
