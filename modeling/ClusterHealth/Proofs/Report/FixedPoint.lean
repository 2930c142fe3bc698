import ClusterHealth.Proofs.Report.Dumping
import ClusterHealth.Proofs.Report.TimestampText

/-!
Writing a report is a fixed point of reading it: what is written is read as a report that is written the
same. A field is written in the form that its own shape reads back, under the name that is read first.
What a null had been given for is not written, and comes back as the default that it is.
-/

namespace ClusterHealth.Report

open Entries (get? get?_eq_none_iff get?_append)

def Shape.isRequired : Shape → Bool
  | .optionalText | .optionalTime | .free => false
  | _ => true

mutual

/-- No two fields of an object are written under one name, and only a field that is always written may
be read from other names. -/
def Shape.isRegular : Shape → Bool
  | .list item => item.isRegular
  | .object fields => decide (fieldNames fields).Nodup && fieldsRegular fields
  | _ => true

def fieldsRegular : List (String × List String × Shape) → Bool
  | [] => true
  | (_, others, shape) :: rest =>
    (others.isEmpty || shape.isRequired) && shape.isRegular && fieldsRegular rest

end

theorem isRegular_healthInfoShape : healthInfoShape.isRegular = true := by
  decide +kernel

theorem Shape.Holds.isRequired_eq_false {s : Shape} {v : Value} (h : s.Holds v) (hv : v.isOmitted = true) :
    s.isRequired = false := by
  cases h <;> first | rfl | cases hv

section Reading

variable {shape : Shape} {v : Value} {name : String} {others : List String} {D : Members}

theorem givenName?_written (h : shape.Holds v) (hshape : others.isEmpty || shape.isRequired)
    (hget : D.get? (.plain name) = if v.isOmitted then none else some v.toJson) :
    givenName? (name, others, shape) D = if v.isOmitted then none else some name := by
  cases hv : v.isOmitted with
  | true =>
    have hothers : others = [] := by simpa [h.isRequired_eq_false hv] using hshape
    simp [givenName?, hothers, Entries.any_eq_isSome_get?, hget, hv]
  | false =>
    rw [hv] at hget
    exact givenName?_of_mem (f := (name, others, shape)) (Entries.mem_names_of_get? hget)

theorem given?_written (h : shape.Holds v) (hshape : others.isEmpty || shape.isRequired)
    (hget : D.get? (.plain name) = if v.isOmitted then none else some v.toJson) :
    given? (name, others, shape) D = if v.isOmitted then none else some v.toJson := by
  rw [given?, givenName?_written h hshape hget]
  cases hv : v.isOmitted with
  | true => rfl
  | false => simp [hget, hv]

theorem readNames_written {fields : List Field} {declared : List (AnyText × Value)}
    (h : FieldsHold fields declared) (hfields : fieldsRegular fields = true)
    (hget : ∀ m ∈ declared, D.get? m.1 = if m.2.isOmitted then none else some m.2.toJson) :
    readNames fields D = Entries.names (membersToJson declared) := by
  induction fields generalizing declared with
  | nil =>
    cases h
    rfl
  | cons f fields ih =>
    obtain ⟨name, others, shape⟩ := f
    cases h with
    | @cons _ v _ declared _ _ hv hrest =>
      simp only [fieldsRegular, Bool.and_eq_true] at hfields
      have hgiven := givenName?_written hv hfields.1.1 (hget (name, v) List.mem_cons_self)
      have hrest := ih hrest hfields.2 fun m hm => hget m (List.mem_cons_of_mem _ hm)
      rw [readNames] at hrest ⊢
      rw [List.filterMap_cons, hgiven, hrest, membersToJson]
      cases v.isOmitted <;> rfl

theorem exists_items_written {R : Json → Value → Prop} {vs : List Value}
    (h : ∀ v ∈ vs, ∃ w, R v.toJson w ∧ w.toJson = v.toJson) :
    ∃ ws, List.Forall₂ R (itemsToJson vs) ws ∧ itemsToJson ws = itemsToJson vs := by
  induction vs with
  | nil => exact ⟨[], .nil, rfl⟩
  | cons v vs ih =>
    obtain ⟨⟨w, hw, hwv⟩, hvs⟩ := List.forall_mem_cons.1 h
    obtain ⟨ws, hws, hwsvs⟩ := ih hvs
    exact ⟨w :: ws, .cons hw hws, by rw [itemsToJson, itemsToJson, hwv, hwsvs]⟩

theorem unknownMembers_written {fields : List Field} {declared : List (AnyText × Value)} {kept : Members}
    (hread : readNames fields (membersToJson declared ++ kept) =
      Entries.names (membersToJson declared))
    (hfresh : ∀ m ∈ kept, m.1 ∉ Entries.names declared) :
    unknownMembers fields (membersToJson declared ++ kept) = kept := by
  have hdeclared : (membersToJson declared).filter
      (fun m => !(Entries.names (membersToJson declared)).contains m.1) = [] := by
    refine List.filter_eq_nil_iff.2 fun m hm => ?_
    have hname : m.1 ∈ Entries.names (membersToJson declared) := List.mem_map_of_mem hm
    simp [hname]
  have hkept : kept.filter
      (fun m => !(Entries.names (membersToJson declared)).contains m.1) = kept := by
    refine List.filter_eq_self.2 fun m hm => ?_
    have hname : m.1 ∉ Entries.names (membersToJson declared) :=
      fun hname => hfresh m hm (names_membersToJson_subset _ hname)
    simp [hname]
  rw [unknownMembers, hread, List.filter_append, hdeclared, hkept, List.nil_append]

mutual

theorem exists_reads_written (s : Shape) (hs : s.isRegular = true) {v : Value} (hv : s.Holds v) :
    ∃ w, s.Reads v.toJson w ∧ w.toJson = v.toJson ∧ w.isOmitted = v.isOmitted := by
  match s with
  | .text =>
    cases hv
    exact ⟨_, .text rfl, rfl, rfl⟩
  | .decimal =>
    cases hv
    exact ⟨_, .decimal rfl, rfl, rfl⟩
  | .whole =>
    cases hv
    exact ⟨_, .whole rfl, rfl, rfl⟩
  | .optionalText =>
    cases hv with
    | noText => exact ⟨_, .noText, rfl, rfl⟩
    | someText => exact ⟨_, .someText rfl, rfl, rfl⟩
  | .optionalTime =>
    cases hv with
    | noTime => exact ⟨_, .noTime, rfl, rfl⟩
    | someTime ht => exact ⟨_, .someTime (Timestamp.ofJson_render ht), rfl, rfl⟩
  | .free =>
    cases hv with
    | @free w hw =>
      rw [Value.toJson, finite_of_allFinite w hw]
      exact ⟨_, .free, finite_of_allFinite w hw, rfl⟩
  | .mapping =>
    cases hv with
    | @mapping ms hms =>
      -- what a broken name loses it loses in the first writing
      have hlossy := finiteMembers_of_membersFinite _ (membersFinite_lossyNames hms)
      rw [Value.toJson, hlossy]
      have hsame := lossyNames_of_namesPlain (namesPlain_lossyNames ms)
      exact ⟨_, .mapping, by rw [Value.toJson, hsame, hlossy], rfl⟩
  | .list item =>
    cases hv with
    | @list vs _ hvs =>
      obtain ⟨ws, hws, hwritten⟩ : ∃ ws, List.Forall₂ item.Reads (itemsToJson vs) ws ∧
          itemsToJson ws = itemsToJson vs := by
        refine exists_items_written fun v hv => ?_
        obtain ⟨w, hw, hwv, -⟩ := exists_reads_written item hs (hvs v hv)
        exact ⟨w, hw, hwv⟩
      rw [Value.toJson]
      exact ⟨.list ws, reads_list_iff.2 ⟨_, rfl, ws, hws, rfl⟩, by rw [Value.toJson, hwritten], rfl⟩
  | .object fields =>
    cases hv with
    | @object _ declared kept hdeclared hkept =>
      obtain ⟨hnodup, hfields⟩ := Bool.and_eq_true_iff.1 hs
      have hnodup : (Entries.names declared).Nodup := by
        rw [hdeclared.names_eq]
        exact of_decide_eq_true hnodup
      have hfinite : ∀ m ∈ kept, m.2.allFinite = true := fun m hm => (hkept m hm).1
      have hfresh : ∀ m ∈ writtenFree kept, m.1 ∉ Entries.names declared := by
        intro m hm
        rw [hdeclared.names_eq]
        exact (hkept m (mem_of_mem_writtenFree hm)).2.2
      -- no kept member takes the place of a declared one, so each is read from where it was written
      have hget := get?_written hnodup hfresh
      have hplain : namesPlain (membersToJson declared ++ writtenFree kept) = true := by
        refine List.all_eq_true.2 fun m hm => ?_
        obtain hm | hm := List.mem_append.1 hm
        · have hname := names_membersToJson_subset _ (List.mem_map_of_mem hm)
          rw [hdeclared.names_eq] at hname
          obtain ⟨f, -, hf⟩ := List.mem_map.1 hname
          rw [← hf]
          rfl
        · exact (hkept m (mem_of_mem_writtenFree hm)).2.1
      have hunknown := unknownMembers_written (readNames_written hdeclared hfields hget) hfresh
      obtain ⟨read, hread, hwritten⟩ := exists_fieldsRead_written fields hfields hdeclared hget
      refine ⟨.object (read ++ freeMembers (writtenFree kept)), ?_, ?_, rfl⟩
      · rw [toJson_object hfinite]
        exact reads_object_iff.2 ⟨_, rfl, hplain, read, hread, by rw [hunknown]⟩
      · rw [toJson_object hfinite, toJson_object fun m hm => hfinite m (mem_of_mem_writtenFree hm),
          hwritten, writtenFree_writtenFree]

theorem exists_fieldsRead_written (fields : List (String × List String × Shape))
    (hfields : fieldsRegular fields = true) {declared : List (AnyText × Value)}
    (h : FieldsHold fields declared) {D : Members}
    (hget : ∀ m ∈ declared, D.get? m.1 = if m.2.isOmitted then none else some m.2.toJson) :
    ∃ read, FieldsRead fields D read ∧ membersToJson read = membersToJson declared := by
  match fields with
  | [] =>
    cases h
    exact ⟨[], .nil, rfl⟩
  | (name, others, shape) :: rest =>
    cases h with
    | @cons _ v _ declared _ _ hv hrest =>
      simp only [fieldsRegular, Bool.and_eq_true] at hfields
      obtain ⟨⟨hothers, hshape⟩, hfields⟩ := hfields
      obtain ⟨hhead, htail⟩ := List.forall_mem_cons.1 hget
      have hgiven := given?_written hv hothers hhead
      obtain ⟨read, hread, hwritten⟩ := exists_fieldsRead_written rest hfields hrest htail
      cases homitted : v.isOmitted with
      | true =>
        refine ⟨(name, shape.default) :: read, .missing (by rw [hgiven, homitted]; rfl) hread, ?_⟩
        rw [← hv.eq_default homitted, membersToJson, membersToJson, hwritten]
      | false =>
        obtain ⟨w, hw, hwv, hsame⟩ := exists_reads_written shape hshape hv
        refine ⟨(name, w) :: read, .given (by rw [hgiven, homitted]; rfl) hw hread, ?_⟩
        rw [membersToJson, membersToJson, hwv, hsame, hwritten]

end

theorem exists_check_written (s : Shape) (hs : s.isRegular = true) {v : Value} (hv : s.Holds v)
    (path : List String) :
    ∃ w, s.check path v.toJson = .ok w ∧ w.toJson = v.toJson ∧ w.isOmitted = v.isOmitted := by
  obtain ⟨w, hw, hwritten⟩ := exists_reads_written s hs hv
  exact ⟨w, (check_eq_ok_iff s).2 hw, hwritten⟩

end Reading

namespace HealthInfo

theorem depth_of_ofJson {v : Json} {h : HealthInfo} (hread : ofJson v = .ok h)
    (hv : v.depth ≤ depthLimit) : h.value.toJson.depth ≤ depthLimit := by
  have hheight : healthInfoShape.height ≤ depthLimit := by decide +kernel
  exact (ofJson_eq_ok_iff.1 hread).depth_le hheight hv

theorem isPlain_of_ofJson {v : Json} {h : HealthInfo} (hread : ofJson v = .ok h)
    (hv : v.isPlain = true) : h.value.toJson.isPlain = true :=
  (ofJson_eq_ok_iff.1 hread).isPlain hv

theorem reads_what_it_writes {d : Members} {h : HealthInfo} (hfinite : (Json.obj d).allFinite = true)
    (hplain : (Json.obj d).isPlain = true) (hread : ofJson (.obj d) = .ok h) :
    ((Json.obj d).depth ≤ depthLimit → ∃ D, h.toJson = .ok D) ∧
      ∀ D, h.toJson = .ok D → ∃ g, ofJson D = .ok g ∧ g.toJson = .ok D := by
  refine ⟨fun hdepth => ⟨h.value.toJson,
    toJson_of_isPlain (isPlain_of_ofJson hread hplain) (depth_of_ofJson hread hdepth)⟩, fun D hD => ?_⟩
  obtain ⟨x, hx, rfl⟩ := map_eq_ok_iff.1 hread
  have hholds : healthInfoShape.Holds x := holds_of_check healthInfoShape hfinite hx
  obtain ⟨w, hw, hwx, -⟩ := exists_check_written healthInfoShape isRegular_healthInfoShape hholds []
  obtain ⟨rfl, hfirst⟩ := toJson_eq_ok_iff.1 hD
  exact ⟨⟨w⟩, map_eq_ok_iff.2 ⟨w, hw, rfl⟩, toJson_eq_ok_iff.2 ⟨hwx.symm, by rw [hwx, hfirst]⟩⟩

def laxDocument : Members :=
  [("server", .obj [("error", .str "refused")]),
    ("timestamp", .str "1700000000.25"),
    ("minio", .obj [("config", .obj [("config", .null), ("k", .null)]), ("x", .bool true)]),
    ("perf", .obj [("net_parallel", .obj [("remote_peers", .arr [.obj [
      ("latency", .obj [("avg", .str "1.5"), ("max", .bool true), ("min", .int 2)]),
      ("throughput", .obj [("avg", .str "3.0"), ("max", .float (.ofInt 2))])]])])]),
    ("extra", .arr [.null])]

theorem reads_what_it_writes_laxDocument :
    (Json.obj laxDocument).allFinite = true ∧ (Json.obj laxDocument).isPlain = true ∧
      ∃ h, ofJson (.obj laxDocument) = .ok h ∧ ∃ D, h.toJson = .ok D ∧ ∃ g, ofJson D = .ok g ∧ g.toJson = .ok D := by
  have hfinite : (Json.obj laxDocument).allFinite = true := by decide +kernel
  have hplain : (Json.obj laxDocument).isPlain = true := by decide +kernel
  have hok : (ofJson (.obj laxDocument)).isOk = true := by decide +kernel
  have hdepth : (Json.obj laxDocument).depth ≤ depthLimit := by decide +kernel
  cases hread : ofJson (.obj laxDocument) with
  | error es =>
    rw [hread] at hok
    cases hok
  | ok h =>
    obtain ⟨hwritten, hreread⟩ := reads_what_it_writes hfinite hplain hread
    obtain ⟨D, hD⟩ := hwritten hdepth
    exact ⟨hfinite, hplain, h, rfl, D, hD, hreread D hD⟩

section Nested

def nested : Nat → Json
  | 0 => .arr []
  | n + 1 => .arr [nested n]

theorem depth_nested (n : Nat) : (nested n).depth = n + 1 := by
  induction n with
  | zero => rfl
  | succ n ih => simp [nested, Json.depth, Json.itemsDepth, ih]

theorem allFinite_nested (n : Nat) : (nested n).allFinite = true := by
  induction n with
  | zero => rfl
  | succ n ih => simp [nested, Json.allFinite, Json.itemsFinite, ih]

theorem isPlain_nested (n : Nat) : (nested n).isPlain = true := by
  induction n with
  | zero => rfl
  | succ n ih => simp [nested, Json.isPlain, Json.itemsPlain, ih]

theorem ofJson_unknown (v : Json) : ofJson (.obj [("deep", v)]) =
    .ok ⟨.object (fieldDefaults healthInfoShape.fields ++ freeMembers [("deep", v)])⟩ :=
  rfl

theorem toJson_eq_error_of_unknown {v : Json} (hfinite : v.allFinite = true)
    (hplain : v.isPlain = true) (hdepth : depthLimit ≤ v.depth) :
    toJson ⟨.object (fieldDefaults healthInfoShape.fields ++ freeMembers [("deep", v)])⟩ =
      .error .tooDeep := by
  have hkept : (Value.free v).isOmitted = false := by
    cases v with
    | null => cases hdepth
    | _ => rfl
  have hmember : (AnyText.plain "deep", v) ∈ membersToJson
      (fieldDefaults healthInfoShape.fields ++ freeMembers [("deep", v)]) := by
    rw [membersToJson_append, membersToJson_freeMembers (by simpa using hfinite)]
    exact List.mem_append_right _ (by simp [writtenFree, hkept])
  have hle : depthLimit ≤ _ := hdepth.trans (Json.membersDepth_le_iff.1 (Nat.le_refl _) _ hmember)
  have hdoc : (Json.obj [("deep", v)]).isPlain = true := by
    rw [Json.isPlain, Json.membersPlain, hplain]
    rfl
  exact toJson_eq_tooDeep (isPlain_of_ofJson (ofJson_unknown v) hdoc)
    (Nat.not_le.2 (Nat.lt_succ_of_le hle))

theorem tooDeep_of_nested : (Json.obj [("deep", nested 299)]).allFinite = true ∧
    (Json.obj [("deep", nested 299)]).isPlain = true ∧
      ∃ h, ofJson (.obj [("deep", nested 299)]) = .ok h ∧ h.toJson = .error .tooDeep := by
  have hfinite := allFinite_nested 299
  have hdepth : depthLimit ≤ (nested 299).depth := by
    rw [depth_nested]
    decide
  have hplain := isPlain_nested 299
  refine ⟨?_, ?_, _, ofJson_unknown _, toJson_eq_error_of_unknown hfinite hplain hdepth⟩
  · rw [Json.allFinite, Json.membersFinite, hfinite]
    rfl
  · rw [Json.isPlain, Json.membersPlain, hplain]
    rfl

end Nested

end HealthInfo

end ClusterHealth.Report
