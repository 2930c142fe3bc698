import ClusterHealth.Proofs.Report.FixedPoint

namespace ClusterHealth

namespace Report

open Entries (get? get?_eq_none_iff get?_filter)

def Shape.blank : Shape → Json
  | .mapping | .object _ => .obj []
  | .list _ => .arr []
  | _ => .null

mutual

/-- `w` is written for `v`, and whatever the shape does not describe is in it as it was in `v`. -/
inductive Shape.Keeps : Shape → Json → Json → Prop
  | text : Shape.Keeps .text v w
  | optionalText : Shape.Keeps .optionalText v w
  | decimal : Shape.Keeps .decimal v w
  | whole : Shape.Keeps .whole v w
  | optionalTime : Shape.Keeps .optionalTime v w
  | free : Shape.Keeps .free v v
  | mapping : Shape.Keeps .mapping v v
  | list : vs.length = ws.length → (∀ p ∈ vs.zip ws, Shape.Keeps item p.1 p.2) →
      Shape.Keeps (.list item) (.arr vs) (.arr ws)
  | object : FieldsKeep fields d D →
      (∀ name v, d.get? name = some v → v ≠ .null → name ∉ readNames fields d →
        D.get? name = some v) →
      (∀ name ∈ Entries.names D, name ∈ fieldNames fields ∨ name ∈ Entries.names d) →
      Shape.Keeps (.object fields) (.obj d) (.obj D)

inductive FieldsKeep : List (String × List String × Shape) → Members → Members → Prop
  | nil : FieldsKeep [] d D
  | written : D.get? (.plain name) = some w →
      Shape.Keeps shape ((given? (name, others, shape) d).getD shape.blank) w → FieldsKeep fields d D →
      FieldsKeep ((name, others, shape) :: fields) d D
  | leftOut : D.get? (.plain name) = none →
      (given? (name, others, shape) d).getD shape.blank = .null → FieldsKeep fields d D →
      FieldsKeep ((name, others, shape) :: fields) d D

end

section Fields

variable {shape : Shape} {name : String} {others : List String} {fields : List Field}
  {key : AnyText} {d D : Members} {x : Value} {v : Json}

theorem Shape.Reads.eq_null_of_isOmitted (h : shape.Reads v x) (hx : x.isOmitted = true) :
    v = .null := by
  cases h with
  | noText | noTime => rfl
  | free =>
    cases v with
    | null => rfl
    | _ => cases hx
  | _ => cases hx

theorem blank_eq_null (h : shape.default.isOmitted = true) : shape.blank = .null := by
  cases shape with
  | optionalText | optionalTime | free => rfl
  | _ => cases h

theorem FieldsKeep.cons (hget : D.get? (.plain name) = if x.isOmitted then none else some x.toJson)
    (hnull : x.isOmitted = true → (given? (name, others, shape) d).getD shape.blank = .null)
    (hkeeps : shape.Keeps ((given? (name, others, shape) d).getD shape.blank) x.toJson)
    (hrest : FieldsKeep fields d D) : FieldsKeep ((name, others, shape) :: fields) d D := by
  cases hx : x.isOmitted with
  | true =>
    rw [hx] at hget
    exact .leftOut hget (hnull hx) hrest
  | false =>
    rw [hx] at hget
    exact .written hget hkeeps hrest

theorem get?_of_unknown {declared : List (AnyText × Value)} (hdeclared : FieldsHold fields declared)
    (hv : d.get? key = some v) (hnull : v ≠ .null) (hunread : key ∉ readNames fields d) :
    (membersToJson declared ++ writtenFree (unknownMembers fields d)).get? key = some v := by
  have hfresh : (membersToJson declared).get? key = none := get?_eq_none_iff.2 fun hname => by
    have hfield := names_membersToJson_subset _ hname
    rw [hdeclared.names_eq] at hfield
    obtain ⟨f, hf, rfl⟩ := List.mem_map.1 hfield
    have hgiven := givenName?_of_mem (Entries.mem_names_of_get? hv)
    exact hunread (List.mem_filterMap.2 ⟨f, hf, by rw [hgiven]; rfl⟩)
  have hwritten : (Value.free v).isOmitted = false := by
    cases v with
    | null => exact absurd rfl hnull
    | _ => rfl
  rw [Entries.get?_append, hfresh, Option.none_or]
  exact get?_filter (get?_filter hv (by simpa using hunread)) (by simp [hwritten])

theorem mem_names_written {declared : List (AnyText × Value)} (hdeclared : FieldsHold fields declared)
    (h : key ∈ Entries.names (membersToJson declared ++ writtenFree (unknownMembers fields d))) :
    key ∈ fieldNames fields ∨ key ∈ Entries.names d := by
  rw [Entries.names, List.map_append] at h
  obtain h | h := List.mem_append.1 h
  · exact .inl (hdeclared.names_eq ▸ names_membersToJson_subset _ h)
  · obtain ⟨m, hm, rfl⟩ := List.mem_map.1 h
    exact .inr (List.mem_map_of_mem (List.mem_filter.1 (mem_of_mem_writtenFree hm)).1)

end Fields

section Items

theorem keeps_list {item : Shape} {vs : List Json} {xs : List Value}
    (h : List.Forall₂ item.Reads vs xs)
    (hitems : ∀ v ∈ vs, ∀ x, item.Reads v x → item.Keeps v x.toJson) :
    (Shape.list item).Keeps (.arr vs) (.arr (itemsToJson xs)) := by
  rw [itemsToJson_eq_map]
  refine .list (by simpa using h.length_eq) fun p hp => ?_
  rw [List.zip_map_right] at hp
  obtain ⟨⟨v, x⟩, hmem, rfl⟩ := List.mem_map.1 hp
  exact hitems v (List.of_mem_zip hmem).1 x (List.forall₂_zip h hmem)

end Items

mutual

theorem keeps_default (s : Shape) (hs : s.isRegular = true) : s.Keeps s.blank s.default.toJson := by
  match s with
  | .text => exact .text
  | .optionalText => exact .optionalText
  | .decimal => exact .decimal
  | .whole => exact .whole
  | .optionalTime => exact .optionalTime
  | .free => exact .free
  | .mapping => exact .mapping
  | .list item => exact .list rfl (by simp)
  | .object fields =>
    obtain ⟨hnodup, hfields⟩ := Bool.and_eq_true_iff.1 hs
    have hnames := (fieldsHold_default fields).names_eq
    have hnodup : (Entries.names (fieldDefaults fields)).Nodup := hnames ▸ of_decide_eq_true hnodup
    rw [Shape.blank, Shape.default, Value.toJson]
    refine .object (fieldsKeep_defaults fields hfields (get?_membersToJson hnodup)) (by simp [get?]) ?_
    exact fun name hname => .inl (hnames ▸ names_membersToJson_subset _ hname)

theorem fieldsKeep_defaults (fields : List (String × List String × Shape))
    (hfields : fieldsRegular fields = true) {D : Members}
    (hget : ∀ m ∈ fieldDefaults fields,
      D.get? m.1 = if m.2.isOmitted then none else some m.2.toJson) :
    FieldsKeep fields [] D := by
  match fields with
  | [] => exact .nil
  | (name, others, shape) :: rest =>
    simp only [fieldsRegular, Bool.and_eq_true] at hfields
    obtain ⟨hhead, htail⟩ := List.forall_mem_cons.1 hget
    have hnone : given? (name, others, shape) [] = none := Option.bind_eq_none_iff.2 fun _ _ => rfl
    refine FieldsKeep.cons (x := shape.default) hhead ?_ ?_ (fieldsKeep_defaults rest hfields.2 htail)
    · rw [hnone]
      exact blank_eq_null
    · rw [hnone]
      exact keeps_default shape hfields.1.2

end

mutual

theorem Shape.Reads.keeps {s : Shape} {v : Json} {x : Value} (h : s.Reads v x)
    (hs : s.isRegular = true) (hv : v.allFinite = true) (hplain : v.isPlain = true) :
    s.Keeps v x.toJson := by
  match s with
  | .text => exact .text
  | .optionalText => exact .optionalText
  | .decimal => exact .decimal
  | .whole => exact .whole
  | .optionalTime => exact .optionalTime
  | .free =>
    cases h
    rw [Value.toJson, finite_of_allFinite v hv]
    exact .free
  | .mapping =>
    cases h with
    | @mapping ms =>
      rw [Value.toJson, lossyNames_of_namesPlain (namesPlain_of_membersPlain hplain),
        finiteMembers_of_membersFinite ms hv]
      exact .mapping
  | .list item =>
    obtain ⟨vs, rfl, xs, hitems, rfl⟩ := reads_list_iff.1 h
    exact keeps_list hitems fun v hmem x hread =>
      hread.keeps hs (Json.itemsFinite_iff.1 hv v hmem) (Json.itemsPlain_iff.1 hplain v hmem)
  | .object fields =>
    obtain ⟨hnodup, hfields⟩ := Bool.and_eq_true_iff.1 hs
    obtain ⟨ms, rfl, -, declared, hread, rfl⟩ := reads_object_iff.1 h
    have hdeclared := hread.holds hv
    have hnodup : (Entries.names declared).Nodup := hdeclared.names_eq ▸ of_decide_eq_true hnodup
    have hfresh : ∀ m ∈ writtenFree (unknownMembers fields ms), m.1 ∉ Entries.names declared := by
      intro m hm
      rw [hdeclared.names_eq]
      exact not_mem_names_of_mem_unknown (mem_of_mem_writtenFree hm)
    rw [toJson_object fun m => allFinite_of_mem_unknown hv]
    exact .object (hread.keeps hfields hv hplain (get?_written hnodup hfresh))
      (fun name v => get?_of_unknown hdeclared) (fun name => mem_names_written hdeclared)

theorem FieldsRead.keeps {fields : List (String × List String × Shape)} {d D : Members}
    {declared : List (AnyText × Value)} (h : FieldsRead fields d declared)
    (hfields : fieldsRegular fields = true) (hd : Json.membersFinite d = true)
    (hplain : Json.membersPlain d = true)
    (hget : ∀ m ∈ declared, D.get? m.1 = if m.2.isOmitted then none else some m.2.toJson) :
    FieldsKeep fields d D := by
  match fields with
  | [] => exact .nil
  | (name, others, shape) :: rest =>
    simp only [fieldsRegular, Bool.and_eq_true] at hfields
    cases h with
    | @given _ _ _ _ v x _ _ hgiven hx hrest =>
      obtain ⟨hhead, htail⟩ := List.forall_mem_cons.1 hget
      refine FieldsKeep.cons (x := x) hhead ?_ ?_ (hrest.keeps hfields.2 hd hplain htail)
      · rw [hgiven]
        exact hx.eq_null_of_isOmitted
      · rw [hgiven]
        obtain ⟨_, hmem⟩ := exists_mem_of_given hgiven
        exact hx.keeps hfields.1.2 (allFinite_of_given hd hgiven) (Json.membersPlain_iff.1 hplain _ hmem).2
    | missing hnone hrest =>
      obtain ⟨hhead, htail⟩ := List.forall_mem_cons.1 hget
      refine FieldsKeep.cons (x := shape.default) hhead ?_ ?_ (hrest.keeps hfields.2 hd hplain htail)
      · rw [hnone]
        exact blank_eq_null
      · rw [hnone]
        exact keeps_default shape hfields.1.2

end

section Kept

variable {fields : List Field} {d D : Members} {v w : Json} {name : String}

theorem given?_field (name : String) (shape : Shape) (d : Members) :
    given? (field name shape) d = d.get? (.plain name) := by
  have hany := Entries.any_eq_isSome_get? (.plain name) d
  cases h : d.get? (.plain name) <;> simp [given?, field, givenName?, hany, h]

theorem given?_server (d : Members) :
    given? (serverKey, ["server"], serverShape) d = (d.get? serverKey).or (d.get? "server") := by
  have hown := Entries.any_eq_isSome_get? (.plain serverKey) d
  have hother := Entries.any_eq_isSome_get? (.plain "server") d
  cases h : d.get? serverKey <;> cases h' : d.get? "server" <;>
    simp [given?, givenName?, hown, hother, h, h']

theorem FieldsKeep.of_given (h : FieldsKeep fields d D) {f : Field} (hf : f ∈ fields)
    (hgiven : given? f d = some v) (hv : v ≠ .null) :
    ∃ w, D.get? (.plain f.1) = some w ∧ f.2.2.Keeps v w := by
  induction fields with
  | nil => cases hf
  | cons g fields ih =>
    cases h with
    | written hget hkeeps hrest =>
      obtain rfl | hf := List.mem_cons.1 hf
      · rw [hgiven] at hkeeps
        exact ⟨_, hget, hkeeps⟩
      · exact ih hrest hf
    | leftOut hget hnull hrest =>
      obtain rfl | hf := List.mem_cons.1 hf
      · rw [hgiven] at hnull
        exact absurd hnull hv
      · exact ih hrest hf

theorem Shape.Keeps.exists_obj (h : (Shape.object fields).Keeps (.obj d) w) :
    ∃ D, w = .obj D ∧ FieldsKeep fields d D := by
  cases h with
  | @object _ _ D hfields _ _ => exact ⟨D, rfl, hfields⟩

theorem eq_of_keeps_records {vs : List Json} (h : (Shape.list .mapping).Keeps (.arr vs) w) :
    w = .arr vs := by
  cases h with
  | list hlength hitems =>
    refine congrArg Json.arr (List.ext_getElem hlength.symm fun i hi hi' => ?_)
    have hmem := List.getElem_mem (List.length_zip ▸ Nat.lt_min.2 ⟨hi', hi⟩)
    have hkeeps := hitems _ hmem
    rw [List.getElem_zip] at hkeeps
    generalize vs[i] = a at hkeeps
    cases hkeeps
    rfl

def recordNames : List String := ["cpus", "partitions", "osinfo", "meminfo", "procinfo"]

structure PassesThrough (d D : Members) : Prop where
  records : ∀ {sys : Members} {name : String} {records : List Json}, d.get? "sys" = some (.obj sys) →
    name ∈ recordNames → sys.get? (.plain name) = some (.arr records) →
    ∃ written : Members, D.get? "sys" = some (.obj written) ∧
      written.get? (.plain name) = some (.arr records)
  info : ∀ {server info : Members}, (d.get? "minio").or (d.get? "server") = some (.obj server) →
    server.get? "info" = some (.obj info) →
    ∃ written : Members, D.get? "minio" = some (.obj written) ∧ written.get? "info" = some (.obj info)
  config : ∀ {server config : Members} {settings : Json},
    (d.get? "minio").or (d.get? "server") = some (.obj server) →
    server.get? "config" = some (.obj config) → config.get? "config" = some settings →
    settings ≠ .null →
    ∃ written writtenConfig : Members, D.get? "minio" = some (.obj written) ∧
      written.get? "config" = some (.obj writtenConfig) ∧
      writtenConfig.get? "config" = some settings
  keeps : healthInfoShape.Keeps (.obj d) (.obj D)

theorem exists_obj_of_given {f : Field} {inner : List Field} {e : Members} (h : FieldsKeep fields d D)
    (hf : f ∈ fields) (hshape : f.2.2 = .object inner) (hgiven : given? f d = some (.obj e)) :
    ∃ written : Members, D.get? (.plain f.1) = some (.obj written) ∧ FieldsKeep inner e written := by
  obtain ⟨w, hw, hkeeps⟩ := h.of_given hf hgiven (by simp)
  rw [hshape] at hkeeps
  obtain ⟨written, rfl, hfields⟩ := hkeeps.exists_obj
  exact ⟨written, hw, hfields⟩

theorem records_of_fieldsKeep {sys : Members} {records : List Json}
    (h : FieldsKeep healthInfoShape.fields d D) (hsys : d.get? "sys" = some (.obj sys))
    (hname : name ∈ recordNames) (hrecords : sys.get? (.plain name) = some (.arr records)) :
    ∃ written : Members, D.get? "sys" = some (.obj written) ∧
      written.get? (.plain name) = some (.arr records) := by
  obtain ⟨written, hwritten, hfields⟩ := exists_obj_of_given (f := field "sys" sysShape) h
    (by simp [healthInfoShape, Shape.fields]) rfl ((given?_field ..).trans hsys)
  obtain ⟨w, hw, hkeeps⟩ := hfields.of_given (f := field name (.list .mapping))
    (List.mem_map_of_mem hname) ((given?_field ..).trans hrecords) (by simp)
  obtain rfl := eq_of_keeps_records hkeeps
  exact ⟨written, hwritten, hw⟩

theorem server_of_fieldsKeep {server : Members} (h : FieldsKeep healthInfoShape.fields d D)
    (hserver : (d.get? "minio").or (d.get? "server") = some (.obj server)) :
    ∃ written : Members, D.get? "minio" = some (.obj written) ∧
      FieldsKeep serverShape.fields server written :=
  exists_obj_of_given (f := (serverKey, ["server"], serverShape)) h
    (by simp [healthInfoShape, Shape.fields]) rfl ((given?_server d).trans hserver)

theorem passesThrough_of_keeps (h : healthInfoShape.Keeps (.obj d) (.obj D)) : PassesThrough d D := by
  obtain ⟨_, hD, hfields⟩ := h.exists_obj
  obtain rfl := Json.obj.inj hD
  refine ⟨fun hsys hname hrecords => records_of_fieldsKeep hfields hsys hname hrecords,
    fun hserver hinfo => ?_, fun hserver hconfig hsettings hnull => ?_, h⟩
  · obtain ⟨written, hwritten, hkeeps⟩ := server_of_fieldsKeep hfields hserver
    obtain ⟨w, hw, hinfo⟩ := hkeeps.of_given (f := field "info" .mapping)
      (by simp [serverShape, Shape.fields]) ((given?_field ..).trans hinfo) (by simp)
    cases hinfo
    exact ⟨written, hwritten, hw⟩
  · obtain ⟨written, hwritten, hkeeps⟩ := server_of_fieldsKeep hfields hserver
    obtain ⟨writtenConfig, hwrittenConfig, hkeeps⟩ := exists_obj_of_given
      (f := field "config" configShape) hkeeps (by simp [serverShape, Shape.fields]) rfl
      ((given?_field ..).trans hconfig)
    obtain ⟨w, hw, hsettings⟩ := hkeeps.of_given (f := field "config" .free) (by simp)
      ((given?_field ..).trans hsettings) hnull
    cases hsettings
    exact ⟨written, writtenConfig, hwritten, hwrittenConfig, hw⟩

end Kept

namespace HealthInfo

theorem keeps_of_ofJson {d : Members} {h : HealthInfo} (hfinite : (Json.obj d).allFinite = true)
    (hplain : (Json.obj d).isPlain = true) (hread : ofJson (.obj d) = .ok h) :
    ∃ D, h.value.toJson = .obj D ∧ healthInfoShape.Keeps (.obj d) (.obj D) := by
  have hkeeps := (ofJson_eq_ok_iff.1 hread).keeps isRegular_healthInfoShape hfinite hplain
  obtain ⟨D, hD, -⟩ := hkeeps.exists_obj
  exact ⟨D, hD, hD ▸ hkeeps⟩

theorem data_passes_through {d : Members} {h : HealthInfo} (hfinite : (Json.obj d).allFinite = true)
    (hplain : (Json.obj d).isPlain = true) (hread : ofJson (.obj d) = .ok h) :
    ((Json.obj d).depth ≤ depthLimit → ∃ D, h.toJson = .ok D) ∧
      ∀ D, h.toJson = .ok D → ∃ ms, D = .obj ms ∧ PassesThrough d ms := by
  refine ⟨fun hdepth => ⟨_,
    toJson_of_isPlain (isPlain_of_ofJson hread hplain) (depth_of_ofJson hread hdepth)⟩, fun D hD => ?_⟩
  obtain ⟨ms, hms, hkeeps⟩ := keeps_of_ofJson hfinite hplain hread
  obtain ⟨rfl, -⟩ := toJson_eq_ok_iff.1 hD
  exact ⟨ms, hms, passesThrough_of_keeps hkeeps⟩

def recordDocument : Members :=
  [("x", .int 1), ("y", .null),
    ("sys", .obj [("cpus", .arr [.obj [("addr", .str "a"), ("cpu", .null)], .obj []]), ("z", .bool true)]),
    ("minio", .obj [("info", .obj [("mode", .null)]),
      ("config", .obj [("config", .arr [.null]), ("k", .str "v")])]),
    ("server", .null)]

theorem data_passes_through_recordDocument :
    (Json.obj recordDocument).allFinite = true ∧ (Json.obj recordDocument).isPlain = true ∧
      ∃ h, ofJson (.obj recordDocument) = .ok h ∧
        ∃ D, h.toJson = .ok (.obj D) ∧ PassesThrough recordDocument D := by
  have hfinite : (Json.obj recordDocument).allFinite = true := by decide +kernel
  have hplain : (Json.obj recordDocument).isPlain = true := by decide +kernel
  have hok : (ofJson (.obj recordDocument)).isOk = true := by decide +kernel
  have hdepth : (Json.obj recordDocument).depth ≤ depthLimit := by decide +kernel
  cases hread : ofJson (.obj recordDocument) with
  | error es =>
    rw [hread] at hok
    cases hok
  | ok h =>
    obtain ⟨hwritten, hpasses⟩ := data_passes_through hfinite hplain hread
    obtain ⟨D, hD⟩ := hwritten hdepth
    obtain ⟨ms, rfl, hms⟩ := hpasses D hD
    exact ⟨hfinite, hplain, h, rfl, ms, hD, hms⟩

def withRecord (v : Json) : Members := [("sys", .obj [("cpus", .arr [.obj [("cache", v)]])])]

theorem toJson_withRecord {v : Json} (hv : v.allFinite = true) (hvplain : v.isPlain = true)
    (hdepth : depthLimit ≤ v.depth) :
    (Json.obj (withRecord v)).allFinite = true ∧ (Json.obj (withRecord v)).isPlain = true ∧
      ∃ h, ofJson (.obj (withRecord v)) = .ok h ∧ h.toJson = .error .tooDeep := by
  have hfinite : (Json.obj (withRecord v)).allFinite = true := by
    simp [withRecord, Json.allFinite, Json.membersFinite, Json.itemsFinite, hv]
  have hplain : (Json.obj (withRecord v)).isPlain = true := by
    simp [withRecord, Json.isPlain, Json.membersPlain, Json.itemsPlain, AnyText.isPlain, hvplain]
  refine ⟨hfinite, hplain, _, rfl, toJson_eq_tooDeep (isPlain_of_ofJson rfl hplain) fun hwhole => ?_⟩
  obtain ⟨D, hD, hkeeps⟩ := keeps_of_ofJson hfinite hplain rfl
  have hname : "cpus" ∈ recordNames := by decide
  obtain ⟨written, hwritten, hrecord⟩ := (passesThrough_of_keeps hkeeps).records rfl hname rfl
  have hlimit : depthLimit = 255 := rfl
  rw [hD, Json.depth] at hwhole
  have hD : Json.membersDepth D ≤ 254 := by omega
  have hsys := depth_get?_le hD "sys"
  rw [hwritten, Option.getD_some, Json.depth] at hsys
  have hwritten : Json.membersDepth written ≤ 253 := by omega
  have hcpus := depth_get?_le hwritten "cpus"
  rw [hrecord] at hcpus
  simp [Json.depth, Json.itemsDepth, Json.membersDepth] at hcpus
  omega

theorem record_withheld_of_nested : (Json.obj (withRecord (nested 299))).allFinite = true ∧
    (Json.obj (withRecord (nested 299))).isPlain = true ∧
    ∃ h, ofJson (.obj (withRecord (nested 299))) = .ok h ∧ h.toJson = .error .tooDeep :=
  toJson_withRecord (allFinite_nested 299) (isPlain_nested 299) (by rw [depth_nested]; decide)

end HealthInfo

end Report

end ClusterHealth
