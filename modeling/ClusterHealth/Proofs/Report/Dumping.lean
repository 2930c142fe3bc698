import ClusterHealth.Proofs.Report.Depth

namespace ClusterHealth

theorem Json.itemsPlain_iff {vs : List Json} :
    Json.itemsPlain vs = true ↔ ∀ v ∈ vs, v.isPlain = true := by
  induction vs with
  | nil => simp [Json.itemsPlain]
  | cons v vs ih => simp [Json.itemsPlain, ih]

theorem Json.membersPlain_iff {ms : Members} :
    Json.membersPlain ms = true ↔ ∀ m ∈ ms, m.1.isPlain = true ∧ m.2.isPlain = true := by
  induction ms with
  | nil => simp [Json.membersPlain]
  | cons m ms ih =>
    rw [Json.membersPlain, Bool.and_eq_true, Bool.and_eq_true, ih, List.forall_mem_cons, and_assoc]

namespace Report

namespace HealthInfo.DumpError

section First

variable {asText : Bool}

theorem or_tooDeep (m n levels : Nat) :
    (if m ≤ levels then none else some tooDeep).or (if n ≤ levels then none else some tooDeep) =
      if max m n ≤ levels then none else some tooDeep := by
  by_cases hm : m ≤ levels <;> simp only [hm, Nat.max_le, if_true, if_false, Option.none_or,
    Option.some_or, true_and, false_and]

mutual

theorem first?_of_isPlain (levels : Nat) (v : Json) (h : v.isPlain = true) :
    first? asText levels v = if v.depth ≤ levels then none else some .tooDeep := by
  match v with
  | .null | .bool _ | .int _ | .float _ => simp [first?, Json.depth]
  | .str t =>
    have ht : t.isPlain = true := h
    simp [first?, Json.depth, ht]
  | .arr vs =>
    cases levels with
    | zero => simp [first?, Json.depth]
    | succ levels => simp [first?, Json.depth, firstOfItems?_of_isPlain levels vs h]
  | .obj ms =>
    cases levels with
    | zero => simp [first?, Json.depth]
    | succ levels => simp [first?, Json.depth, firstOfMembers?_of_isPlain levels ms h]

theorem firstOfItems?_of_isPlain (levels : Nat) (vs : List Json) (h : Json.itemsPlain vs = true) :
    firstOfItems? asText levels vs = if Json.itemsDepth vs ≤ levels then none else some .tooDeep := by
  match vs with
  | [] => simp [firstOfItems?, Json.itemsDepth]
  | v :: rest =>
    obtain ⟨hv, hrest⟩ := Bool.and_eq_true_iff.1 h
    rw [firstOfItems?, first?_of_isPlain levels v hv, firstOfItems?_of_isPlain levels rest hrest,
      Json.itemsDepth]
    exact or_tooDeep ..

theorem firstOfMembers?_of_isPlain (levels : Nat) (ms : List (AnyText × Json))
    (h : Json.membersPlain ms = true) :
    firstOfMembers? asText levels ms =
      if Json.membersDepth ms ≤ levels then none else some .tooDeep := by
  match ms with
  | [] => simp [firstOfMembers?, Json.membersDepth]
  | (name, v) :: rest =>
    obtain ⟨hname, h⟩ := Bool.and_eq_true_iff.1 h
    obtain ⟨hv, hrest⟩ := Bool.and_eq_true_iff.1 h
    rw [firstOfMembers?, hname, first?_of_isPlain levels v hv,
      firstOfMembers?_of_isPlain levels rest hrest, Json.membersDepth]
    exact or_tooDeep ..

end

mutual

theorem depth_le_of_first? (levels : Nat) (v : Json) (h : first? asText levels v = none) :
    v.depth ≤ levels := by
  match v with
  | .null | .bool _ | .int _ | .float _ | .str _ => exact Nat.zero_le levels
  | .arr vs =>
    cases levels with
    | zero => cases h
    | succ levels => exact Nat.succ_le_succ (itemsDepth_le_of_first? levels vs h)
  | .obj ms =>
    cases levels with
    | zero => cases h
    | succ levels => exact Nat.succ_le_succ (membersDepth_le_of_first? levels ms h)

theorem itemsDepth_le_of_first? (levels : Nat) (vs : List Json)
    (h : firstOfItems? asText levels vs = none) : Json.itemsDepth vs ≤ levels := by
  match vs with
  | [] => exact Nat.zero_le levels
  | v :: rest =>
    obtain ⟨hv, hrest⟩ := Option.or_eq_none_iff.1 h
    exact Nat.max_le.2 ⟨depth_le_of_first? levels v hv, itemsDepth_le_of_first? levels rest hrest⟩

theorem membersDepth_le_of_first? (levels : Nat) (ms : List (AnyText × Json))
    (h : firstOfMembers? asText levels ms = none) : Json.membersDepth ms ≤ levels := by
  match ms with
  | [] => exact Nat.zero_le levels
  | (name, v) :: rest =>
    rw [firstOfMembers?] at h
    split at h
    · cases h
    · obtain ⟨hv, hrest⟩ := Option.or_eq_none_iff.1 h
      exact Nat.max_le.2 ⟨depth_le_of_first? levels v hv, membersDepth_le_of_first? levels rest hrest⟩

end

end First

end HealthInfo.DumpError

section Plain

mutual

theorem isPlain_finite (v : Json) : (finite v).isPlain = v.isPlain := by
  match v with
  | .null | .bool _ | .int _ | .str _ => rfl
  | .float x =>
    rw [finite]
    split <;> rfl
  | .arr vs => rw [finite, Json.isPlain, Json.isPlain, itemsPlain_finiteItems vs]
  | .obj ms => rw [finite, Json.isPlain, Json.isPlain, membersPlain_finiteMembers ms]

theorem itemsPlain_finiteItems (vs : List Json) :
    Json.itemsPlain (finiteItems vs) = Json.itemsPlain vs := by
  match vs with
  | [] => rfl
  | v :: rest =>
    rw [finiteItems, Json.itemsPlain, Json.itemsPlain, isPlain_finite v, itemsPlain_finiteItems rest]

theorem membersPlain_finiteMembers (ms : List (AnyText × Json)) :
    Json.membersPlain (finiteMembers ms) = Json.membersPlain ms := by
  match ms with
  | [] => rfl
  | (name, v) :: rest =>
    rw [finiteMembers, Json.membersPlain, Json.membersPlain, isPlain_finite v,
      membersPlain_finiteMembers rest]

end

theorem lossyNames_of_namesPlain {ms : Members} (h : namesPlain ms = true) : lossyNames ms = ms := by
  induction ms with
  | nil => rfl
  | cons m ms ih =>
    obtain ⟨hm, hms⟩ := Bool.and_eq_true_iff.1 h
    obtain ⟨name, v⟩ := m
    obtain ⟨s, rfl⟩ := AnyText.exists_of_isPlain hm
    rw [lossyNames, List.map_cons]
    exact congrArg _ (ih hms)

theorem namesPlain_of_membersPlain {ms : Members} (h : Json.membersPlain ms = true) :
    namesPlain ms = true :=
  List.all_eq_true.2 fun m hm => (Json.membersPlain_iff.1 h m hm).1

theorem namesPlain_lossyNames (ms : Members) : namesPlain (lossyNames ms) = true :=
  List.all_eq_true.2 fun m hm => by
    obtain ⟨e, -, rfl⟩ := List.mem_map.1 hm
    rfl

theorem itemsPlain_itemsToJson {vs : List Value} (h : ∀ v ∈ vs, v.toJson.isPlain = true) :
    Json.itemsPlain (itemsToJson vs) = true := by
  rw [itemsToJson_eq_map, Json.itemsPlain_iff]
  simpa using h

theorem membersPlain_membersToJson {ms : List (AnyText × Value)}
    (h : ∀ m ∈ ms, m.1.isPlain = true ∧ m.2.toJson.isPlain = true) :
    Json.membersPlain (membersToJson ms) = true := by
  refine Json.membersPlain_iff.2 fun m hm => ?_
  obtain ⟨a, ha, rfl⟩ := exists_of_mem_membersToJson hm
  exact h a ha

mutual

theorem isPlain_default (s : Shape) : s.default.toJson.isPlain = true := by
  match s with
  | .text | .optionalText | .decimal | .whole | .optionalTime | .free | .mapping | .list _ => rfl
  | .object fields => exact membersPlain_membersToJson (isPlain_fieldDefaults fields)

theorem isPlain_fieldDefaults (fields : List (String × List String × Shape)) :
    ∀ m ∈ fieldDefaults fields, m.1.isPlain = true ∧ m.2.toJson.isPlain = true := by
  match fields with
  | [] => simp [fieldDefaults]
  | (name, others, shape) :: rest =>
    exact List.forall_mem_cons.2 ⟨⟨rfl, isPlain_default shape⟩, isPlain_fieldDefaults rest⟩

end

theorem isPlain_of_checkText {v : Json} {t : AnyText} (h : checkText v = .ok t) (hv : v.isPlain = true) :
    t.isPlain = true := by
  cases v <;> cases h
  exact hv

mutual

theorem Shape.Reads.isPlain {s : Shape} {v : Json} {x : Value} (h : s.Reads v x)
    (hv : v.isPlain = true) : x.toJson.isPlain = true := by
  match s with
  | .text =>
    cases h with
    | text h => exact isPlain_of_checkText h hv
  | .optionalText =>
    cases h with
    | noText => rfl
    | someText h => exact isPlain_of_checkText h hv
  | .decimal | .whole | .optionalTime => cases h <;> rfl
  | .free =>
    cases h
    rwa [Value.toJson, isPlain_finite]
  | .mapping =>
    cases h
    rw [Value.toJson, lossyNames_of_namesPlain (namesPlain_of_membersPlain hv)]
    exact (membersPlain_finiteMembers _).trans hv
  | .list item =>
    obtain ⟨vs, rfl, xs, hitems, rfl⟩ := reads_list_iff.1 h
    refine itemsPlain_itemsToJson fun x hx => ?_
    obtain ⟨v, hmem, hread⟩ := exists_mem_of_forall₂ hitems hx
    exact hread.isPlain (Json.itemsPlain_iff.1 hv v hmem)
  | .object fields =>
    obtain ⟨ms, rfl, -, declared, hfields, rfl⟩ := reads_object_iff.1 h
    refine membersPlain_membersToJson fun m hm => ?_
    obtain hm | hm := List.mem_append.1 hm
    · exact hfields.isPlain hv m hm
    · obtain ⟨e, he, rfl⟩ := List.mem_map.1 hm
      rw [Value.toJson, isPlain_finite]
      exact Json.membersPlain_iff.1 hv e (List.mem_filter.1 he).1

theorem FieldsRead.isPlain {fields : List (String × List String × Shape)} {ms : Members}
    {declared : List (AnyText × Value)} (h : FieldsRead fields ms declared)
    (hms : Json.membersPlain ms = true) :
    ∀ m ∈ declared, m.1.isPlain = true ∧ m.2.toJson.isPlain = true := by
  match fields with
  | [] =>
    cases h
    simp
  | (name, others, shape) :: rest =>
    cases h with
    | given hgiven hx hrest =>
      obtain ⟨_, hmem⟩ := exists_mem_of_given hgiven
      exact List.forall_mem_cons.2
        ⟨⟨rfl, hx.isPlain (Json.membersPlain_iff.1 hms _ hmem).2⟩, hrest.isPlain hms⟩
    | missing _ hrest =>
      exact List.forall_mem_cons.2 ⟨⟨rfl, isPlain_default shape⟩, hrest.isPlain hms⟩

end

end Plain

namespace HealthInfo

variable {h : HealthInfo} {D : Json}

theorem toJson_eq_ok_iff : h.toJson = .ok D ↔
    D = h.value.toJson ∧ DumpError.first? false depthLimit h.value.toJson = none := by
  rw [toJson, dump]
  cases DumpError.first? false depthLimit h.value.toJson with
  | some e => simp
  | none => simp [eq_comm]

theorem dump_of_isPlain (asText : Bool) (hplain : h.value.toJson.isPlain = true)
    (hdepth : h.value.toJson.depth ≤ depthLimit) : h.dump asText = .ok h.value.toJson := by
  have hnone : DumpError.first? asText depthLimit h.value.toJson = none :=
    (DumpError.first?_of_isPlain depthLimit _ hplain).trans (if_pos hdepth)
  rw [dump, hnone]

theorem toJson_of_isPlain (hplain : h.value.toJson.isPlain = true)
    (hdepth : h.value.toJson.depth ≤ depthLimit) : h.toJson = .ok h.value.toJson :=
  dump_of_isPlain false hplain hdepth

theorem dump_eq_of_isPlain (hplain : h.value.toJson.isPlain = true) : h.dump true = h.toJson := by
  rw [toJson, dump, dump, DumpError.first?_of_isPlain depthLimit _ hplain,
    DumpError.first?_of_isPlain depthLimit _ hplain]

theorem toJson_eq_tooDeep (hplain : h.value.toJson.isPlain = true)
    (hdepth : ¬h.value.toJson.depth ≤ depthLimit) : h.toJson = .error .tooDeep := by
  have hfirst : DumpError.first? false depthLimit h.value.toJson = some .tooDeep :=
    (DumpError.first?_of_isPlain depthLimit _ hplain).trans (if_neg hdepth)
  rw [toJson, dump, hfirst]

theorem render_of_isPlain (hplain : h.value.toJson.isPlain = true)
    (hdepth : h.value.toJson.depth ≤ depthLimit) :
    h.render = .ok (h.value.toJson.render Json.indentedRaw) := by
  rw [render, dump_of_isPlain true hplain hdepth]
  rfl

theorem depth_le_of_toJson (hD : h.toJson = .ok D) : D.depth ≤ depthLimit := by
  obtain ⟨rfl, hfirst⟩ := toJson_eq_ok_iff.1 hD
  exact DumpError.depth_le_of_first? depthLimit _ hfirst

end HealthInfo

end Report

end ClusterHealth
