import ClusterHealth.Proofs.Results
import ClusterHealth.Report.Shape
import Mathlib.Data.List.Infix

namespace ClusterHealth

theorem both_eq_ok_iff {x : Checked α} {y : Checked β} {f : α → β → γ} {c : γ} :
    both x y f = .ok c ↔ ∃ a b, x = .ok a ∧ y = .ok b ∧ f a b = c := by
  cases x <;> cases y <;> simp [both]

theorem mem_of_both_eq_error {x : Checked α} {y : Checked β} {f : α → β → γ} {es : List FieldError}
    (h : both x y f = .error es) {e : FieldError} (he : e ∈ es) :
    (∃ xs, x = .error xs ∧ e ∈ xs) ∨ ∃ ys, y = .error ys ∧ e ∈ ys := by
  cases x <;> cases y <;> simp_all [both]
  · subst h
    simpa using he

theorem mem_of_allOf_eq_error {xs : List (Checked α)} {es : List FieldError} (h : allOf xs = .error es)
    {e : FieldError} (he : e ∈ es) : ∃ fs, .error fs ∈ xs ∧ e ∈ fs := by
  induction xs generalizing es with
  | nil => cases h
  | cons x xs ih =>
    obtain ⟨fs, rfl, hfs⟩ | ⟨fs, hrest, hfs⟩ := mem_of_both_eq_error h he
    · exact ⟨fs, by simp, hfs⟩
    · obtain ⟨gs, hgs, heg⟩ := ih hrest hfs
      exact ⟨gs, by simp [hgs], heg⟩

theorem of_map_eq_error {x : Checked α} {f : α → β} {es : List FieldError} (h : x.map f = .error es) :
    x = .error es := by
  cases x with
  | ok a => cases h
  | error fs =>
    cases h
    rfl

theorem path_of_refuse {path : List String} {kind : FieldErrorKind} {es : List FieldError}
    (h : (refuse path kind : Checked α) = .error es) {e : FieldError} (he : e ∈ es) : e.path = path := by
  obtain rfl : [⟨path, kind⟩] = es := by simpa [refuse] using h
  obtain rfl := List.mem_singleton.1 he
  rfl

theorem path_of_placed {path : List String} {r : Except FieldErrorKind α} {es : List FieldError}
    (h : placed path r = .error es) {e : FieldError} (he : e ∈ es) : e.path = path := by
  cases r with
  | ok a => cases h
  | error k => exact path_of_refuse h he

namespace Report

theorem givenName?_mem {f : Field} {ms : Members} {name : String} (h : givenName? f ms = some name) :
    name ∈ f.1 :: f.2.1 :=
  List.mem_of_find?_eq_some h

def fieldValue (path : List String) (ms : Members) (f : Field) : Checked Value :=
  match givenName? f ms with
  | none => .ok f.2.2.default
  | some name => f.2.2.check (path ++ [name]) ((ms.get? name).getD .null)

theorem checkFields_cons (path : List String) (ms : Members) (f : Field) (fields : List Field) :
    checkFields path ms (f :: fields) =
      both (fieldValue path ms f) (checkFields path ms fields) fun v checked => (.plain f.1, v) :: checked :=
  rfl

theorem exists_field_of_checkFields {path : List String} {ms : Members} {fields : List Field}
    {es : List FieldError} (h : checkFields path ms fields = .error es) {e : FieldError} (he : e ∈ es) :
    ∃ f ∈ fields, ∃ fs, fieldValue path ms f = .error fs ∧ e ∈ fs := by
  induction fields generalizing es with
  | nil => cases h
  | cons f fields ih =>
    rw [checkFields_cons] at h
    obtain ⟨fs, hf, hfs⟩ | ⟨fs, hrest, hfs⟩ := mem_of_both_eq_error h he
    · exact ⟨f, by simp, fs, hf, hfs⟩
    · obtain ⟨g, hg, gs, hgs⟩ := ih hrest hfs
      exact ⟨g, by simp [hg], gs, hgs⟩

mutual

theorem path_prefix_of_check (s : Shape) (path : List String) (v : Json) {es : List FieldError}
    (h : s.check path v = .error es) {e : FieldError} (he : e ∈ es) : path <+: e.path := by
  match s with
  | .text | .optionalText | .decimal | .whole | .optionalTime | .mapping =>
    rw [Shape.check] at h
    rw [path_of_placed h he]
  | .free => cases h
  | .list item =>
    rw [Shape.check.eq_def] at h
    cases v with
    | arr vs =>
      obtain ⟨fs, hmem, hfs⟩ := mem_of_allOf_eq_error (of_map_eq_error h) he
      obtain ⟨i, hi, hcheck⟩ := List.mem_mapIdx.1 hmem
      exact (List.prefix_append ..).trans (path_prefix_of_check item _ _ hcheck hfs)
    | _ => rw [path_of_refuse h he]
  | .object fields =>
    rw [Shape.check.eq_def] at h
    cases v with
    | obj ms =>
      dsimp only at h
      split at h
      · exact path_prefix_of_checkFields fields path ms (of_map_eq_error h) he
      · rw [path_of_refuse h he]
    | _ => rw [path_of_refuse h he]

theorem path_prefix_of_checkFields (fields : List (String × List String × Shape)) (path : List String)
    (ms : Members) {es : List FieldError} (h : checkFields path ms fields = .error es) {e : FieldError}
    (he : e ∈ es) : path <+: e.path := by
  match fields with
  | [] => cases h
  | (name, others, shape) :: rest =>
    rw [checkFields_cons] at h
    obtain ⟨fs, hf, hfs⟩ | ⟨fs, hrest, hfs⟩ := mem_of_both_eq_error h he
    · rw [fieldValue] at hf
      split at hf
      · cases hf
      · exact (List.prefix_append ..).trans (path_prefix_of_check shape _ _ hf hfs)
    · exact path_prefix_of_checkFields rest path ms hrest hfs

end

end Report

end ClusterHealth
