import ClusterHealth.Proofs.Report.Holding

namespace ClusterHealth.Report

open Entries (get? get?_eq_none_iff get?_append)

variable {declared : List (AnyText × Value)} {ms : Members}

theorem itemsToJson_eq_map (vs : List Value) : itemsToJson vs = vs.map Value.toJson := by
  induction vs with
  | nil => rfl
  | cons v vs ih => rw [itemsToJson, ih, List.map_cons]

theorem membersToJson_append (as bs : List (AnyText × Value)) :
    membersToJson (as ++ bs) = membersToJson as ++ membersToJson bs := by
  induction as with
  | nil => rfl
  | cons a as ih =>
    rw [List.cons_append, membersToJson, membersToJson, ih]
    split <;> rfl

theorem names_membersToJson_sublist (as : List (AnyText × Value)) :
    (Entries.names (membersToJson as)).Sublist (Entries.names as) := by
  induction as with
  | nil => exact .slnil
  | cons a as ih =>
    rw [membersToJson]
    split
    · exact ih.cons a.1
    · exact ih.cons_cons a.1

theorem names_membersToJson_subset (as : List (AnyText × Value)) :
    Entries.names (membersToJson as) ⊆ Entries.names as :=
  (names_membersToJson_sublist as).subset

theorem exists_of_mem_membersToJson {as : List (AnyText × Value)} {m : AnyText × Json}
    (h : m ∈ membersToJson as) : ∃ a ∈ as, m = (a.1, a.2.toJson) := by
  induction as with
  | nil => cases h
  | cons a as ih =>
    rw [membersToJson] at h
    split at h
    · obtain ⟨b, hb, hm⟩ := ih h
      exact ⟨b, List.mem_cons_of_mem _ hb, hm⟩
    · obtain rfl | h := List.mem_cons.1 h
      · exact ⟨a, List.mem_cons_self, rfl⟩
      · obtain ⟨b, hb, hm⟩ := ih h
        exact ⟨b, List.mem_cons_of_mem _ hb, hm⟩

def writtenFree (ms : Members) : Members := ms.filter fun m => !(Value.free m.2).isOmitted

theorem membersToJson_freeMembers (h : ∀ m ∈ ms, m.2.allFinite = true) :
    membersToJson (freeMembers ms) = writtenFree ms := by
  induction ms with
  | nil => rfl
  | cons m ms ih =>
    have hrest := ih fun m hm => h m (List.mem_cons_of_mem _ hm)
    have hm := finite_of_allFinite m.2 (h m List.mem_cons_self)
    simp only [writtenFree, freeMembers] at hrest ⊢
    rw [List.map_cons, membersToJson, List.filter_cons, hrest, Value.toJson, hm]
    cases (Value.free m.2).isOmitted <;> rfl

theorem mem_of_mem_writtenFree {m : AnyText × Json} (h : m ∈ writtenFree ms) : m ∈ ms :=
  (List.mem_filter.1 h).1

theorem writtenFree_writtenFree (ms : Members) : writtenFree (writtenFree ms) = writtenFree ms := by
  simp [writtenFree]

theorem get?_membersToJson (hnodup : (Entries.names declared).Nodup) :
    ∀ m ∈ declared,
      get? (membersToJson declared) m.1 = if m.2.isOmitted then none else some m.2.toJson := by
  induction declared with
  | nil => simp
  | cons a declared ih =>
    obtain ⟨hfresh, hnodup⟩ := List.nodup_cons.1 hnodup
    intro m hm
    rw [membersToJson]
    obtain rfl | hm := List.mem_cons.1 hm
    · split
      · exact get?_eq_none_iff.2 fun hmem => hfresh (names_membersToJson_subset _ hmem)
      · simp [get?]
    · have hne : a.1 ≠ m.1 := fun heq => hfresh (List.mem_map.2 ⟨m, hm, heq.symm⟩)
      split
      · exact ih hnodup m hm
      · simpa [get?, hne] using ih hnodup m hm

theorem get?_written {kept : Members} (hnodup : (Entries.names declared).Nodup)
    (hfresh : ∀ m ∈ kept, m.1 ∉ Entries.names declared) :
    ∀ m ∈ declared, get? (membersToJson declared ++ kept) m.1 =
      if m.2.isOmitted then none else some m.2.toJson := by
  intro m hm
  have hnone : kept.get? m.1 = none := get?_eq_none_iff.2 fun hname => by
    obtain ⟨e, he, hem⟩ := List.mem_map.1 hname
    exact hfresh e he (hem ▸ List.mem_map_of_mem hm)
  rw [get?_append, hnone, Option.or_none, get?_membersToJson hnodup m hm]

theorem toJson_object (h : ∀ m ∈ ms, m.2.allFinite = true) :
    (Value.object (declared ++ freeMembers ms)).toJson =
      .obj (membersToJson declared ++ writtenFree ms) := by
  rw [Value.toJson, membersToJson_append, membersToJson_freeMembers h]

end ClusterHealth.Report
