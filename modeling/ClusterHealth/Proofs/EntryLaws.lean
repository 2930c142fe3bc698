import ClusterHealth.Entries
import Mathlib.Data.List.Basic

namespace ClusterHealth.Entries

variable {κ : Type} [DecidableEq κ] {es : Entries α κ} {name : κ} {v : α}

theorem any_eq_isSome_get? (name : κ) (es : Entries α κ) :
    es.any (·.1 == name) = (get? es name).isSome := by
  simp [get?, List.isSome_find?]

theorem get?_eq_none_iff : get? es name = none ↔ name ∉ names es := by
  simp [get?, names]
  grind

theorem get?_append (name : κ) (es fs : Entries α κ) :
    get? (es ++ fs) name = (get? es name).or (get? fs name) := by
  simp only [get?, List.find?_append]
  cases es.find? (·.1 == name) <;> rfl

theorem mem_names_of_get? (h : get? es name = some v) : name ∈ names es := by
  by_contra hname
  rw [get?_eq_none_iff.2 hname] at h
  cases h

theorem get?_filter {p : κ × α → Bool} (h : get? es name = some v) (hp : p (name, v) = true) :
    get? (es.filter p) name = some v := by
  induction es with
  | nil => cases h
  | cons e es ih =>
    obtain ⟨n, w⟩ := e
    by_cases hn : n = name
    · subst hn
      obtain rfl : w = v := by simpa [get?] using h
      simp [get?, hp]
    · have hes : get? es name = some v := by simpa [get?, hn] using h
      rw [List.filter_cons]
      split
      · simpa [get?, hn] using ih hes
      · exact ih hes

theorem get?_of_mem {e : κ × α} (hnodup : (names es).Nodup) (h : e ∈ es) :
    get? es e.1 = some e.2 := by
  induction es with
  | nil => cases h
  | cons a es ih =>
    obtain ⟨ha, hnodup⟩ := List.nodup_cons.1 hnodup
    obtain rfl | h := List.mem_cons.1 h
    · simp [get?]
    · have he : e.1 ∈ names es := List.mem_map_of_mem h
      have hne : e.1 ≠ a.1 := ne_of_mem_of_not_mem he ha
      simpa [get?, hne.symm] using ih hnodup h

theorem get?_put_of_ne {n : κ} (h : n ≠ name) : get? (put name v es) n = get? es n := by
  induction es with
  | nil => simp [put, get?, h.symm]
  | cons e es ih =>
    obtain ⟨m, w⟩ := e
    rw [put]
    split
    · next hm =>
      subst hm
      simp [get?, h.symm]
    · by_cases hn : m = n
      · simp [get?, hn]
      · simpa [get?, hn] using ih

theorem put_of_not_mem (h : name ∉ names es) : put name v es = es ++ [(name, v)] := by
  induction es with
  | nil => rfl
  | cons e es ih =>
    obtain ⟨n, w⟩ := e
    obtain ⟨hne, hes⟩ : name ≠ n ∧ name ∉ names es := by simpa [names] using h
    rw [put, if_neg hne.symm, ih hes]
    rfl

theorem mem_put {e : κ × α} (h : e ∈ put name v es) : e = (name, v) ∨ e ∈ es := by
  induction es with
  | nil => exact .inl (List.mem_singleton.1 h)
  | cons a es ih =>
    rw [put] at h
    split at h <;> obtain rfl | h := List.mem_cons.1 h
    · next heq => exact .inl (heq ▸ rfl)
    · exact .inr (List.mem_cons_of_mem _ h)
    · exact .inr List.mem_cons_self
    · exact (ih h).imp_right (List.mem_cons_of_mem _)

theorem nodup_names_put (h : (names es).Nodup) : (names (put name v es)).Nodup := by
  by_cases hmem : name ∈ names es
  · rwa [names_put_of_mem hmem]
  · rw [put_of_not_mem hmem, names, List.map_append]
    exact List.nodup_append.2 ⟨h, by simp, by
      rintro a ha b hb rfl
      obtain rfl : a = name := by simpa using hb
      exact hmem ha⟩

theorem foldl_put (ps : Entries α κ) (h : (names (es ++ ps)).Nodup) :
    ps.foldl (fun es (name, v) => put name v es) es = es ++ ps := by
  induction ps generalizing es with
  | nil => simp
  | cons p ps ih =>
    obtain ⟨name, v⟩ := p
    have hfresh : name ∉ names es := by
      simp only [names, List.map_append, List.nodup_append, List.map_cons] at h
      exact fun hmem => h.2.2 name hmem name List.mem_cons_self rfl
    rw [List.foldl_cons]
    dsimp only
    rw [put_of_not_mem hfresh, ih (by simpa using h), List.append_assoc, List.singleton_append]

theorem ofList_eq_self {ps : Entries α κ} (h : (names ps).Nodup) : ofList ps = ps :=
  foldl_put ps (by simpa using h)

theorem mem_foldl_put {e : κ × α} (ps : List (κ × α))
    (h : e ∈ ps.foldl (fun es (name, v) => put name v es) es) : e ∈ ps ∨ e ∈ es := by
  induction ps generalizing es with
  | nil => exact .inr h
  | cons p ps ih =>
    obtain ⟨name, v⟩ := p
    obtain hmem | hmem := ih h
    · exact .inl (List.mem_cons_of_mem _ hmem)
    · obtain rfl | hmem := mem_put hmem
      · exact .inl List.mem_cons_self
      · exact .inr hmem

theorem mem_ofList {e : κ × α} {ps : List (κ × α)} (h : e ∈ ofList ps) : e ∈ ps :=
  (mem_foldl_put ps h).resolve_right List.not_mem_nil

theorem put_map [DecidableEq β] {key : β → κ} {f : β → α} {b : β} {bs : List β}
    (hkey : Function.Injective key) (hnodup : bs.Nodup) (hb : b ∈ bs) :
    put (key b) v (bs.map fun c => (key c, f c)) =
      bs.map fun c => (key c, if c = b then v else f c) := by
  induction bs with
  | nil => cases hb
  | cons c bs ih =>
    obtain ⟨hc, hnodup⟩ := List.nodup_cons.1 hnodup
    rw [List.map_cons, List.map_cons, put]
    by_cases heq : c = b
    · subst heq
      rw [if_pos rfl, if_pos rfl, List.map_congr_left fun d hd => ?_]
      rw [if_neg (ne_of_mem_of_not_mem hd hc)]
    · rw [if_neg (hkey.ne heq), if_neg heq, ih hnodup (List.mem_of_ne_of_mem (Ne.symm heq) hb)]

end ClusterHealth.Entries
