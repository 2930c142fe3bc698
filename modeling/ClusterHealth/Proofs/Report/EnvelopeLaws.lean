import ClusterHealth.Proofs.EntryLaws
import ClusterHealth.Proofs.Report.Checking
import ClusterHealth.Report.Aggregate

namespace ClusterHealth

namespace Report

open Entries (get?)

theorem fieldValue_field (path : List String) (ms : Members) (name : String) (shape : Shape) :
    fieldValue path ms (field name shape) =
      match ms.get? name with
      | none => .ok shape.default
      | some v => shape.check (path ++ [name]) v := by
  have hany := Entries.any_eq_isSome_get? (.plain name) ms
  cases h : ms.get? name <;> simp [fieldValue, field, givenName?, hany, h]

theorem fieldValue_of_absent {ms : Members} {f : Field} (h : ∀ name ∈ f.1 :: f.2.1, ms.get? name = none)
    (path : List String) : fieldValue path ms f = .ok f.2.2.default := by
  have hnone : givenName? f ms = none := by
    refine List.find?_eq_none.2 fun name hname => ?_
    simp [Entries.any_eq_isSome_get?, h name hname]
  simp [fieldValue, hnone]

inductive SaysVersion (d : Members) : AnyText → Prop
  | absent : d.get? "version" = none → SaysVersion d ""
  | null : d.get? "version" = some .null → SaysVersion d ""
  | text : d.get? "version" = some (.str v) → SaysVersion d v

inductive SaysError (d : Members) : Option AnyText → Prop
  | absent : d.get? "error" = none → SaysError d none
  | null : d.get? "error" = some .null → SaysError d none
  | text : d.get? "error" = some (.str s) → SaysError d (some s)

theorem saysVersion_iff {d : Members} {v : AnyText} :
    SaysVersion d v ↔ Envelope.checkVersion ((d.get? "version").getD (.str "")) = .ok v := by
  constructor
  · rintro (h | h | h) <;> simp [h, Envelope.checkVersion, checkText]
  · intro h
    cases hget : d.get? "version" with
    | none =>
      obtain rfl : .plain "" = v := by simpa [hget, Envelope.checkVersion, checkText] using h
      exact .absent hget
    | some w =>
      cases w with
      | null =>
        obtain rfl : .plain "" = v := by simpa [hget, Envelope.checkVersion] using h
        exact .null hget
      | str s =>
        obtain rfl : s = v := by simpa [hget, Envelope.checkVersion, checkText] using h
        exact .text hget
      | _ => simp [hget, Envelope.checkVersion, checkText] at h

theorem saysError_iff {d : Members} {e : Option AnyText} :
    SaysError d e ↔ Envelope.checkError ((d.get? "error").getD .null) = .ok e := by
  constructor
  · rintro (h | h | h) <;> simp [h, Envelope.checkError, checkText, Except.map]
  · intro h
    cases hget : d.get? "error" with
    | none =>
      obtain rfl : none = e := by simpa [hget, Envelope.checkError] using h
      exact .absent hget
    | some w =>
      cases w with
      | null =>
        obtain rfl : none = e := by simpa [hget, Envelope.checkError] using h
        exact .null hget
      | str s =>
        obtain rfl : some s = e := by simpa [hget, Envelope.checkError, checkText, Except.map] using h
        exact .text hget
      | _ => simp [hget, Envelope.checkError, checkText, Except.map] at h

theorem placed_eq_ok_iff {path : List String} {r : Except FieldErrorKind α} {a : α} :
    placed path r = .ok a ↔ r = .ok a := by
  cases r <;> simp [placed, refuse]

theorem Envelope.ofMembers_eq_ok_iff {d : Members} {e : Envelope} :
    ofMembers d = .ok e ↔ SaysVersion d e.version ∧ SaysError d e.error := by
  rw [ofMembers, both_eq_ok_iff, saysVersion_iff, saysError_iff]
  simp only [placed_eq_ok_iff]
  constructor
  · rintro ⟨v, err, hv, herr, rfl⟩
    exact ⟨hv, herr⟩
  · rintro ⟨hv, herr⟩
    exact ⟨e.version, e.error, hv, herr, rfl⟩

def errorValue : Option AnyText → Value
  | none => .absent
  | some s => .text s

theorem fieldValue_version {d : Members} {v : AnyText} (h : SaysVersion d v)
    (hnull : d.get? "version" ≠ some .null) (path : List String) :
    fieldValue path d (field "version" .text) = .ok (.text v) := by
  rw [fieldValue_field]
  cases h with
  | absent h => simp [h, Shape.default]
  | null h => exact absurd h hnull
  | text h => simp [h, Shape.check, checkText, placed, Except.map]

theorem fieldValue_version_null {d : Members} (h : d.get? "version" = some .null) (path : List String) :
    fieldValue path d (field "version" .text) = .error [⟨path ++ ["version"], .stringType⟩] := by
  simp [fieldValue_field, h, Shape.check, checkText, placed, refuse, Except.map]

theorem fieldValue_error {d : Members} {e : Option AnyText} (h : SaysError d e) (path : List String) :
    fieldValue path d (field "error" .optionalText) = .ok (errorValue e) := by
  rw [fieldValue_field]
  cases h with
  | absent h => simp [h, Shape.default, errorValue]
  | null h => simp [h, Shape.check, optional, placed, errorValue]
  | text h => simp [h, Shape.check, optional, checkText, placed, Except.map, errorValue]

def Shape.fields : Shape → List Field
  | .object fields => fields
  | _ => []

def Shape.names (s : Shape) : List String := s.fields.flatMap fun f => f.1 :: f.2.1

namespace HealthInfo

def member? (h : HealthInfo) (name : String) : Option Value :=
  match h.value with
  | .object members => Entries.get? members (.plain name)
  | _ => none

theorem ofJson_obj (d : Members) :
    ofJson (.obj d) =
      if namesPlain d then
        (checkFields [] d healthInfoShape.fields).map fun checked =>
          ⟨.object (checked ++ extras healthInfoShape.fields d)⟩
      else .error [⟨[], .stringUnicode⟩] := by
  simp only [ofJson, healthInfoShape, Shape.check, Shape.fields]
  split
  · cases checkFields [] d _ <;> rfl
  · rfl

def ReadsNoMore (d : Members) : Prop :=
  ∀ name : String, .plain name ∈ Entries.names d → name ∈ healthInfoShape.names →
    name = "version" ∨ name = "error"

theorem names_healthInfoShape : healthInfoShape.names =
    ["version", "error", "timestamp", "sys", "perf", "minio", "server"] := rfl

theorem checkFields_healthInfoShape {d : Members} (hd : ReadsNoMore d) :
    checkFields [] d healthInfoShape.fields =
      both (fieldValue [] d (field "version" .text))
        (both (fieldValue [] d (field "error" .optionalText))
          (.ok [(AnyText.plain "timestamp", Value.absent), (.plain "sys", sysShape.default),
            (.plain "perf", perfShape.default), (.plain serverKey, serverShape.default)])
          fun v checked => (AnyText.plain "error", v) :: checked)
        fun v checked => (AnyText.plain "version", v) :: checked := by
  have habsent : ∀ name ∈ ["timestamp", "sys", "perf", "minio", "server"],
      d.get? (.plain name) = none := by
    intro name hname
    refine Entries.get?_eq_none_iff.2 fun hmem => ?_
    have hknown : name ∈ healthInfoShape.names := by
      rw [names_healthInfoShape]
      exact List.mem_cons_of_mem _ (List.mem_cons_of_mem _ hname)
    rcases hd name hmem hknown with rfl | rfl <;> simp at hname
  have hfield (f : Field)
      (hf : ∀ name ∈ f.1 :: f.2.1, name ∈ ["timestamp", "sys", "perf", "minio", "server"]) :
      fieldValue [] d f = .ok f.2.2.default :=
    fieldValue_of_absent (fun name hname => habsent name (hf name hname)) []
  change checkFields [] d [field "version" .text, field "error" .optionalText,
    field "timestamp" .optionalTime, field "sys" sysShape, field "perf" perfShape,
    (serverKey, ["server"], serverShape)] = _
  rw [checkFields_cons, checkFields_cons, checkFields_cons, checkFields_cons, checkFields_cons,
    checkFields_cons, hfield (field "timestamp" .optionalTime) (by simp [field]),
    hfield (field "sys" sysShape) (by simp [field]),
    hfield (field "perf" perfShape) (by simp [field]),
    hfield (serverKey, ["server"], serverShape) (by simp [serverKey])]
  rfl

theorem ofJson_of_readsNoMore {d : Members} {e : Envelope} (h : Envelope.ofMembers d = .ok e)
    (hplain : namesPlain d = true) (hd : ReadsNoMore d)
    (hnull : d.get? "version" ≠ some .null) :
    ∃ r, ofJson (.obj d) = .ok r ∧ r.member? "version" = some (.text e.version) ∧
      r.member? "error" = some (errorValue e.error) := by
  obtain ⟨hv, he⟩ := Envelope.ofMembers_eq_ok_iff.1 h
  rw [ofJson_obj, if_pos hplain, checkFields_healthInfoShape hd, fieldValue_version hv hnull,
    fieldValue_error he]
  exact ⟨_, rfl, by simp [member?, get?], by simp [member?, get?]⟩

/-- The one thing that the envelope takes and the report does not. -/
theorem ofJson_of_null {d : Members} {e : Envelope} (h : Envelope.ofMembers d = .ok e)
    (hplain : namesPlain d = true) (hd : ReadsNoMore d)
    (hnull : d.get? "version" = some .null) :
    ofJson (.obj d) = .error [⟨["version"], .stringType⟩] := by
  obtain ⟨-, he⟩ := Envelope.ofMembers_eq_ok_iff.1 h
  rw [ofJson_obj, if_pos hplain, checkFields_healthInfoShape hd, fieldValue_version_null hnull,
    fieldValue_error he]
  rfl

theorem ofJson_of_broken {d : Members} (h : ¬namesPlain d = true) :
    ofJson (.obj d) = .error [⟨[], .stringUnicode⟩] := by
  rw [ofJson_obj, if_neg h]

theorem head?_path_of_fieldValue {d : Members} {f : Field} {es : List FieldError}
    (h : fieldValue [] d f = .error es) {x : FieldError} (hx : x ∈ es) :
    ∃ name ∈ f.1 :: f.2.1, x.path.head? = some name := by
  rw [fieldValue] at h
  split at h
  · cases h
  · next name hname =>
    obtain ⟨rest, hpath⟩ := path_prefix_of_check _ _ _ h hx
    exact ⟨name, givenName?_mem hname, by simp [← hpath]⟩

theorem eq_field_of_mem_names {f : Field} (hf : f ∈ healthInfoShape.fields) :
    ("version" ∈ f.1 :: f.2.1 → f = field "version" .text) ∧
      ("error" ∈ f.1 :: f.2.1 → f = field "error" .optionalText) := by
  simp only [healthInfoShape, Shape.fields, List.mem_cons, List.not_mem_nil, or_false] at hf
  rcases hf with rfl | rfl | rfl | rfl | rfl | rfl <;> simp [field, serverKey]

theorem path_of_ofJson_eq_error {d : Members} {e : Envelope} (h : Envelope.ofMembers d = .ok e)
    {es : List FieldError} (hes : ofJson (.obj d) = .error es) {x : FieldError} (hx : x ∈ es) :
    x.path.head? ≠ some "error" ∧ (x.path.head? = some "version" → d.get? "version" = some .null) := by
  obtain ⟨hv, he⟩ := Envelope.ofMembers_eq_ok_iff.1 h
  rw [ofJson_obj] at hes
  split at hes
  case isFalse =>
    obtain rfl := Except.error.inj hes
    obtain rfl := List.mem_singleton.1 hx
    simp
  obtain ⟨f, hf, fs, hvalue, hfs⟩ := exists_field_of_checkFields (of_map_eq_error hes) hx
  obtain ⟨name, hname, hhead⟩ := head?_path_of_fieldValue hvalue hfs
  obtain ⟨hversion, herror⟩ := eq_field_of_mem_names hf
  rw [hhead]
  constructor
  · rintro ⟨⟩
    rw [herror hname, fieldValue_error he] at hvalue
    cases hvalue
  · rintro ⟨⟩
    by_contra hnull
    rw [hversion hname, fieldValue_version hv hnull] at hvalue
    cases hvalue

end HealthInfo

end Report

end ClusterHealth
