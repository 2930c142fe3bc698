import ClusterHealth.Proofs.Json.Decoded
import ClusterHealth.Proofs.Report.FixedPoint

namespace ClusterHealth.Report

open ClusterHealth.Numeral

section Written

variable {declared : List (AnyText × Value)} {kept ms : Members}

theorem isReadable_filter {p : AnyText × Json → Bool} (h : (Json.obj ms).isReadable = true) :
    (Json.obj (ms.filter p)).isReadable = true := by
  obtain ⟨hnodup, hmembers⟩ := Json.isReadable_obj_iff.1 h
  exact Json.isReadable_obj_iff.2
    ⟨hnodup.sublist (List.filter_sublist.map _), fun m hm => hmembers m (List.mem_filter.1 hm).1⟩

theorem isReadable_written (hnodup : (Entries.names declared).Nodup)
    (hdeclared : ∀ m ∈ declared, m.2.toJson.isReadable = true)
    (hkept : (Json.obj kept).isReadable = true)
    (hfresh : ∀ m ∈ kept, m.1 ∉ Entries.names declared) :
    (Json.obj (membersToJson declared ++ kept)).isReadable = true := by
  obtain ⟨hnodupkept, hkept⟩ := Json.isReadable_obj_iff.1 hkept
  refine Json.isReadable_obj_iff.2 ⟨?_, fun m hm => ?_⟩
  · rw [Entries.names, List.map_append]
    refine List.nodup_append.2
      ⟨hnodup.sublist (names_membersToJson_sublist declared), hnodupkept, ?_⟩
    rintro name hname _ hmem rfl
    obtain ⟨m, hm, rfl⟩ := List.mem_map.1 hmem
    exact hfresh m hm (names_membersToJson_subset _ hname)
  · obtain hm | hm := List.mem_append.1 hm
    · obtain ⟨a, ha, rfl⟩ := exists_of_mem_membersToJson hm
      exact hdeclared a ha
    · exact hkept m hm

theorem itemsReadable_itemsToJson {vs : List Value} (h : ∀ v ∈ vs, v.toJson.isReadable = true) :
    Json.itemsReadable (itemsToJson vs) = true := by
  rw [itemsToJson_eq_map, Json.itemsReadable_iff]
  simpa using h

end Written

section Fields

theorem names_fieldDefaults (fields : List Field) :
    Entries.names (fieldDefaults fields) = fieldNames fields :=
  (fieldsHold_default fields).names_eq

mutual

theorem isReadable_default (s : Shape) (hs : s.isRegular = true) :
    s.default.toJson.isReadable = true := by
  match s with
  | .text | .optionalText | .decimal | .optionalTime | .free | .mapping | .list _ => rfl
  | .whole => decide
  | .object fields =>
    obtain ⟨hnodup, hfields⟩ := Bool.and_eq_true_iff.1 hs
    have hread : (Json.obj (membersToJson (fieldDefaults fields) ++ [])).isReadable = true :=
      isReadable_written (names_fieldDefaults fields ▸ of_decide_eq_true hnodup)
        (isReadable_fieldDefaults fields hfields) rfl (by simp)
    rwa [List.append_nil] at hread

theorem isReadable_fieldDefaults (fields : List (String × List String × Shape))
    (hfields : fieldsRegular fields = true) :
    ∀ m ∈ fieldDefaults fields, m.2.toJson.isReadable = true := by
  match fields with
  | [] => simp [fieldDefaults]
  | (name, others, shape) :: rest =>
    simp only [fieldsRegular, Bool.and_eq_true] at hfields
    exact List.forall_mem_cons.2
      ⟨isReadable_default shape hfields.1.2, isReadable_fieldDefaults rest hfields.2⟩

end

theorem isReadable_of_natAbs_lt {n : Int} (h : n.natAbs < wholeBound) :
    (Json.int n).isReadable = true := by
  have hlt : n.natAbs < 10 ^ 19 := h.trans (by decide)
  have hlimit : 19 ≤ digitLimit := by decide
  exact decide_eq_true <|
    ((Nat.length_toDigits_le_iff (by decide) (by decide)).2 hlt).trans hlimit

theorem isReadable_of_fieldInt {text : String} {n : Int} (h : fieldInt text = .ok n) :
    (Json.int n).isReadable = true := by
  unfold fieldInt at h
  dsimp only at h
  split at h
  · cases h
  · cases h
  · next ds rest _ hrun =>
    split at h
    · cases h
    split at h
    · cases h
    next hdigits =>
    obtain rfl := Except.ok.inj h
    unfold digitRun? at hrun
    dsimp only at hrun
    split at hrun
    · cases hrun
    · obtain ⟨rfl, -⟩ := Prod.mk.inj (Option.some.inj hrun)
      exact Json.isReadable_int _ (Nat.le_of_not_lt hdigits)

theorem isReadable_of_checkWhole {v : Json} {n : Int} (hv : v.isReadable = true)
    (h : checkWhole v = .ok n) : (Json.int n).isReadable = true := by
  unfold checkWhole at h
  split at h
  · cases h
    exact hv
  · cases h
    split <;> decide
  · unfold wholeOfDecimal at h
    split at h
    · cases h
    split at h
    · cases h
    split at h
    · next hbound =>
      cases h
      exact isReadable_of_natAbs_lt hbound
    · cases h
  · cases h
  · split at h
    · next hint =>
      cases h
      exact isReadable_of_fieldInt hint
    · cases h
    · cases h
  · cases h

mutual

theorem Shape.Reads.isReadable {s : Shape} {v : Json} {x : Value} (h : s.Reads v x)
    (hs : s.isRegular = true) (hv : v.isReadable = true) (hfinite : v.allFinite = true)
    (hplain : v.isPlain = true) : x.toJson.isReadable = true := by
  match s with
  | .text | .decimal | .optionalText | .optionalTime =>
    cases h <;> rfl
  | .whole =>
    cases h with
    | whole hn => exact isReadable_of_checkWhole hv hn
  | .free =>
    cases h
    rwa [Value.toJson, finite_of_allFinite v hfinite]
  | .mapping =>
    cases h with
    | @mapping ms =>
      rwa [Value.toJson, lossyNames_of_namesPlain (namesPlain_of_membersPlain hplain),
        finiteMembers_of_membersFinite ms hfinite]
  | .list item =>
    obtain ⟨vs, rfl, xs, hitems, rfl⟩ := reads_list_iff.1 h
    refine itemsReadable_itemsToJson fun x hx => ?_
    obtain ⟨v, hmem, hread⟩ := exists_mem_of_forall₂ hitems hx
    exact hread.isReadable hs (Json.itemsReadable_iff.1 hv v hmem)
      (Json.itemsFinite_iff.1 hfinite v hmem) (Json.itemsPlain_iff.1 hplain v hmem)
  | .object fields =>
    obtain ⟨hnodup, hfields⟩ := Bool.and_eq_true_iff.1 hs
    obtain ⟨ms, rfl, -, declared, hread, rfl⟩ := reads_object_iff.1 h
    have hnames := (hread.holds hfinite).names_eq
    have hmembers := (Bool.and_eq_true_iff.1 hv).2
    rw [toJson_object fun m => allFinite_of_mem_unknown hfinite]
    refine isReadable_written (hnames ▸ of_decide_eq_true hnodup)
      (hread.isReadable hfields hmembers hfinite hplain)
      (isReadable_filter (isReadable_filter hv)) fun m hm => ?_
    rw [hnames]
    exact not_mem_names_of_mem_unknown (mem_of_mem_writtenFree hm)

theorem FieldsRead.isReadable {fields : List (String × List String × Shape)} {ms : Members}
    {declared : List (AnyText × Value)} (h : FieldsRead fields ms declared)
    (hfields : fieldsRegular fields = true) (hms : Json.membersReadable ms = true)
    (hfinite : Json.membersFinite ms = true) (hplain : Json.membersPlain ms = true) :
    ∀ m ∈ declared, m.2.toJson.isReadable = true := by
  match fields with
  | [] =>
    cases h
    simp
  | (name, others, shape) :: rest =>
    simp only [fieldsRegular, Bool.and_eq_true] at hfields
    cases h with
    | given hgiven hx hrest =>
      obtain ⟨_, hmem⟩ := exists_mem_of_given hgiven
      have hreadable := hx.isReadable hfields.1.2 (Json.membersReadable_iff.1 hms _ hmem)
        (Json.membersFinite_iff.1 hfinite _ hmem) (Json.membersPlain_iff.1 hplain _ hmem).2
      exact List.forall_mem_cons.2 ⟨hreadable, hrest.isReadable hfields.2 hms hfinite hplain⟩
    | missing _ hrest =>
      exact List.forall_mem_cons.2
        ⟨isReadable_default shape hfields.1.2, hrest.isReadable hfields.2 hms hfinite hplain⟩

end

end Fields

namespace HealthInfo

theorem render_agrees {d : Members} {h : HealthInfo} (hreadable : (Json.obj d).isReadable = true)
    (hfinite : (Json.obj d).allFinite = true) (hplain : (Json.obj d).isPlain = true)
    (hread : ofJson (.obj d) = .ok h) (hresult : h.value.toJson.allFinite = true) :
    ((Json.obj d).depth ≤ depthLimit → ∃ text, h.render = .ok text) ∧
      (∀ e, h.render = .error e ↔ h.toJson = .error e) ∧
      ∀ text, h.render = .ok text → ∃ D, h.toJson = .ok D ∧ Json.decode text = .ok D := by
  have hwritten := isPlain_of_ofJson hread hplain
  have hsame : h.dump true = h.toJson := dump_eq_of_isPlain hwritten
  refine ⟨fun hdepth => ⟨_, render_of_isPlain hwritten (depth_of_ofJson hread hdepth)⟩, fun e => ?_,
    fun text htext => ?_⟩
  · rw [render, hsame]
    cases h.toJson <;> simp [Except.map]
  · obtain ⟨D, hD, rfl⟩ := map_eq_ok_iff.1 htext
    rw [hsame] at hD
    refine ⟨D, hD, ?_⟩
    have hdepth := depth_le_of_toJson hD
    obtain ⟨rfl, -⟩ := toJson_eq_ok_iff.1 hD
    have hread := ofJson_eq_ok_iff.1 hread
    have hlimit : depthLimit ≤ Json.nestingLimit := by decide
    exact Json.decode_render _ (hread.isReadable isRegular_healthInfoShape hreadable hfinite hplain)
      hresult hwritten (hdepth.trans hlimit)

theorem render_agrees_laxDocument :
    (Json.obj laxDocument).isReadable = true ∧ (Json.obj laxDocument).allFinite = true ∧
      (Json.obj laxDocument).isPlain = true ∧
        ∃ h text D, ofJson (.obj laxDocument) = .ok h ∧ h.value.toJson.allFinite = true ∧
          h.render = .ok text ∧ h.toJson = .ok D ∧ Json.decode text = .ok D := by
  have hreadable : (Json.obj laxDocument).isReadable = true := by decide +kernel
  have hfinite : (Json.obj laxDocument).allFinite = true := by decide +kernel
  have hplain : (Json.obj laxDocument).isPlain = true := by decide +kernel
  have hdepth : (Json.obj laxDocument).depth ≤ depthLimit := by decide +kernel
  have hresult : (ofJson (.obj laxDocument)).toOption.map (·.value.toJson.allFinite) = some true := by
    decide +kernel
  cases hread : ofJson (.obj laxDocument) with
  | error es =>
    rw [hread] at hresult
    cases hresult
  | ok h =>
    rw [hread] at hresult
    have hvalue : h.value.toJson.allFinite = true := Option.some.inj hresult
    obtain ⟨hrendered, -, hdecoded⟩ := render_agrees hreadable hfinite hplain hread hvalue
    obtain ⟨text, htext⟩ := hrendered hdepth
    obtain ⟨D, hD, hdecode⟩ := hdecoded text htext
    exact ⟨hreadable, hfinite, hplain, h, text, D, rfl, hvalue, htext, hD, hdecode⟩

section Limits

theorem isReadable_nested (n : Nat) : (nested n).isReadable = true := by
  induction n with
  | zero => rfl
  | succ n ih => simp [nested, Json.isReadable, Json.itemsReadable, ih]

def leastUnreadable : Int := (10 ^ digitLimit : Nat)

theorem isReadable_leastUnreadable : (Json.int leastUnreadable).isReadable = false := by
  have hlt : ¬ (Nat.toDigits 10 (10 ^ digitLimit)).length ≤ digitLimit := by
    rw [Nat.length_toDigits_le_iff (by decide) (by decide)]
    exact Nat.lt_irrefl _
  rw [Json.isReadable, leastUnreadable, Int.natAbs_natCast]
  exact decide_eq_false hlt

theorem allFinite_toJson_unknown {name : AnyText} {v : Json} (hv : v.allFinite = true) :
    (Value.object (fieldDefaults healthInfoShape.fields ++ freeMembers [(name, v)])).toJson.allFinite =
      true := by
  have hdefaults : Json.membersFinite
      (membersToJson (fieldDefaults healthInfoShape.fields)) = true := by decide +kernel
  rw [toJson_object (by simpa using hv), Json.allFinite, Json.membersFinite_iff]
  intro m hm
  obtain hm | hm := List.mem_append.1 hm
  · exact Json.membersFinite_iff.1 hdefaults m hm
  · obtain rfl := List.mem_singleton.1 (mem_of_mem_writtenFree hm)
    exact hv

theorem render_disagrees_beyond_limits :
    ((Json.obj [("deep", nested 299)]).isReadable = true ∧
      (Json.obj [("deep", nested 299)]).allFinite = true ∧
      (Json.obj [("deep", nested 299)]).isPlain = true ∧
        ∃ h, ofJson (.obj [("deep", nested 299)]) = .ok h ∧ h.value.toJson.allFinite = true ∧
          h.render = .error .tooDeep) ∧
    ∃ h text D, ofJson (.obj [("long", .int leastUnreadable)]) = .ok h ∧
      h.render = .ok text ∧ h.toJson = .ok D ∧ Json.decode text ≠ .ok D := by
  constructor
  · have hfinite := allFinite_nested 299
    have hdepth : depthLimit ≤ (nested 299).depth := by
      rw [depth_nested]
      decide
    have hplain := isPlain_nested 299
    have hdoc : (Json.obj [("deep", nested 299)]).isPlain = true := by
      simp [Json.isPlain, Json.membersPlain, AnyText.isPlain, hplain]
    have hsame := dump_eq_of_isPlain (isPlain_of_ofJson (ofJson_unknown (nested 299)) hdoc)
    refine ⟨?_, ?_, hdoc, _, ofJson_unknown _, allFinite_toJson_unknown hfinite, ?_⟩
    · simp [Json.isReadable, Json.membersReadable, Entries.names, isReadable_nested]
    · simp [Json.allFinite, Json.membersFinite, hfinite]
    · rw [render, hsame, toJson_eq_error_of_unknown hfinite hplain hdepth]
      rfl
  · have hread (v : Json) : ofJson (.obj [("long", v)]) =
        .ok ⟨.object (fieldDefaults healthInfoShape.fields ++ freeMembers [("long", v)])⟩ := rfl
    have hdepth := depth_of_ofJson (hread (.int leastUnreadable)) (by
      simp [Json.depth, Json.membersDepth, depthLimit])
    have hplain := isPlain_of_ofJson (hread (.int leastUnreadable)) rfl
    refine ⟨_, _, _, hread _, render_of_isPlain hplain hdepth, toJson_of_isPlain hplain hdepth,
      fun hdecode => ?_⟩
    have hreadable := Json.isReadable_of_decode hdecode
    rw [toJson_object (by simp [Json.allFinite])] at hreadable
    have hmember : (AnyText.plain "long", Json.int leastUnreadable) ∈
        membersToJson (fieldDefaults healthInfoShape.fields) ++
          writtenFree [("long", .int leastUnreadable)] :=
      List.mem_append_right _ (List.mem_singleton.2 rfl)
    have hlong := (Json.isReadable_obj_iff.1 hreadable).2 _ hmember
    rw [isReadable_leastUnreadable] at hlong
    cases hlong

end Limits

end HealthInfo

end ClusterHealth.Report
