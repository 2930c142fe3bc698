import ClusterHealth.DataType
import ClusterHealth.Proofs.EntryLaws
import Mathlib.Data.List.Induction

namespace ClusterHealth

namespace DataType

variable {names : List String} {types : List DataType}

theorem name_injective : Function.Injective name := by
  intro s t h
  exact Option.some.inj ((ofName?_name s).symm.trans (h ▸ ofName?_name t))

theorem name_mem (t : DataType) : t.name ∈ all.map name := List.mem_map_of_mem (mem_all t)

theorem nodup_all : all.Nodup := by decide

theorem exactly_eq_ok_iff : exactly names = .ok types ↔ types.map name = names := by
  induction names generalizing types with
  | nil => cases types <;> simp [exactly]
  | cons n names ih =>
    rw [exactly]
    cases hn : ofName? n with
    | none =>
      refine iff_of_false nofun fun h => ofName?_eq_none_iff.1 hn ?_
      obtain ⟨t, _, -, rfl, -⟩ := List.map_eq_cons_iff.1 h
      exact name_mem t
    | some t =>
      rw [ofName?_eq_some_iff] at hn
      cases hrest : exactly names with
      | error e =>
        refine iff_of_false nofun fun h => ?_
        obtain ⟨_, types, -, -, htypes⟩ := List.map_eq_cons_iff.1 h
        rw [ih.2 htypes] at hrest
        cases hrest
      | ok rest =>
        have hkinds : (t :: rest).map name = n :: names := by rw [List.map_cons, hn, ih.1 hrest]
        change Except.ok (t :: rest) = .ok types ↔ _
        rw [Except.ok.injEq, ← (List.map_injective_iff.2 name_injective).eq_iff, hkinds, eq_comm]

theorem exactly_names (types : List DataType) : exactly (types.map name) = .ok types :=
  exactly_eq_ok_iff.2 rfl

theorem exists_of_exactly_eq_error {e : Invalid} (h : exactly names = .error e) :
    ∃ before after, names = before ++ e.name :: after ∧ (∀ n ∈ before, n ∈ all.map name) ∧
      e.name ∉ all.map name := by
  induction names with
  | nil => cases h
  | cons n names ih =>
    rw [exactly] at h
    split at h
    · next hn =>
      cases h
      exact ⟨[], names, rfl, nofun, ofName?_eq_none_iff.1 hn⟩
    · next t hn =>
      cases hrest : exactly names with
      | ok rest => cases hrest ▸ h
      | error e' =>
        cases hrest ▸ h
        obtain ⟨before, after, rfl, hbefore, he⟩ := ih hrest
        refine ⟨n :: before, after, rfl, List.forall_mem_cons.2 ⟨?_, hbefore⟩, he⟩
        exact ofName?_eq_some_iff.1 hn ▸ name_mem t

end DataType

open DataType

variable {names others : List String} {types : List DataType} {deadline : Duration}

def queryOf (names : List String) (deadline : Duration) : Except Invalid (List (String × String)) :=
  (exactly names).map (query · deadline)

def unasked (deadline : Duration) : List (String × String) :=
  DataType.all.foldl (fun q t => Entries.put t.name "false" q) [("deadline", deadline.format)]

def ask (q : List (String × String)) (n : String) : Except Invalid (List (String × String)) :=
  match ofName? n with
  | none => .error ⟨n⟩
  | some t => .ok (Entries.put t.name "true" q)

section Loop

theorem names_query (types : List DataType) (deadline : Duration) :
    Entries.names (query types deadline) = "deadline" :: all.map name := by
  simp [query, Entries.names, Function.comp_def]

theorem nodup_names_query (types : List DataType) (deadline : Duration) :
    (Entries.names (query types deadline)).Nodup := by
  rw [names_query]
  decide

theorem ofList_query (types : List DataType) (deadline : Duration) :
    Entries.ofList (query types deadline) = query types deadline :=
  Entries.ofList_eq_self (nodup_names_query types deadline)

theorem unasked_eq (deadline : Duration) : unasked deadline = query [] deadline := by
  have hnodup : (Entries.names
      ([("deadline", deadline.format)] ++ all.map fun t => (t.name, "false"))).Nodup :=
    nodup_names_query [] deadline
  have hfold := Entries.foldl_put _ hnodup
  rwa [List.foldl_map] at hfold

theorem put_query (types : List DataType) (deadline : Duration) (t : DataType) :
    Entries.put t.name "true" (query types deadline) = query (types ++ [t]) deadline := by
  have hne : "deadline" ≠ t.name := by cases t <;> decide
  rw [query, Entries.put, if_neg hne, Entries.put_map name_injective nodup_all (mem_all t), query]
  refine congrArg _ (List.map_congr_left fun s _ => ?_)
  by_cases hs : s = t <;> simp [hs]

theorem foldlM_ask (names : List String) (types : List DataType) (deadline : Duration) :
    names.foldlM ask (query types deadline) =
      (exactly names).map fun more => query (types ++ more) deadline := by
  -- the kinds that were asked for so far stand in front of those still to come
  induction names generalizing types with
  | nil => simp [exactly, Except.map, pure, Except.pure]
  | cons n names ih =>
    rw [List.foldlM_cons, ask, exactly]
    cases ofName? n with
    | none => rfl
    | some t =>
      refine (put_query types deadline t ▸ ih (types ++ [t])).trans ?_
      cases exactly names with
      | error e => rfl
      | ok more => simp [Except.map]

/-- The query may be written flag by flag, and a name is refused where it stands. -/
theorem queryOf_eq_foldlM (names : List String) (deadline : Duration) :
    queryOf names deadline = names.foldlM ask (unasked deadline) := by
  rw [unasked_eq, foldlM_ask, queryOf]
  rfl

end Loop

structure Flags (names : List String) (deadline : Duration) (q : List (String × String)) : Prop where
  length : q.length = 13
  nodup : (Entries.names q).Nodup
  keys : Entries.names q = "deadline" :: all.map name
  deadline : q.head? = some ("deadline", deadline.format)
  flags : ∀ t : DataType, Entries.get? q t.name = some (if t.name ∈ names then "true" else "false")

inductive Queried (names : List String) (deadline : Duration) :
    Except Invalid (List (String × String)) → Prop
  | asked {q : List (String × String)} : (∀ n ∈ names, n ∈ all.map name) →
      Flags names deadline q → Queried names deadline (.ok q)
  | refused {e : Invalid} {before after : List String} : names = before ++ e.name :: after →
      (∀ n ∈ before, n ∈ all.map name) → e.name ∉ all.map name →
      e.message = Text.quoted e.name ++ " is not a valid HealthDataType" →
      Queried names deadline (.error e)

def either (p q : List (String × String)) : List (String × String) :=
  p.zipWith (fun (n, v) (_, w) => (n, if w = "true" then w else v)) q

section Names

theorem get?_query (types : List DataType) (deadline : Duration) (t : DataType) :
    Entries.get? (query types deadline) t.name =
      some (if t ∈ types then "true" else "false") := by
  cases t <;> simp [query, Entries.get?, all, name]

theorem flags_query (types : List DataType) (deadline : Duration) :
    Flags (types.map name) deadline (query types deadline) where
  length := rfl
  nodup := nodup_names_query types deadline
  keys := names_query types deadline
  deadline := rfl
  flags t := by simp only [get?_query, List.mem_map_of_injective name_injective]

theorem exists_of_queryOf {q : List (String × String)} (h : queryOf names deadline = .ok q) :
    ∃ types : List DataType, types.map name = names ∧ q = query types deadline := by
  rw [queryOf] at h
  cases hnames : exactly names with
  | error e => cases hnames ▸ h
  | ok types =>
    cases hnames ▸ h
    exact ⟨types, exactly_eq_ok_iff.1 hnames, rfl⟩

theorem queryOf_names (types : List DataType) (deadline : Duration) :
    queryOf (types.map name) deadline = .ok (query types deadline) := by
  rw [queryOf, exactly_names]
  rfl

theorem queried_queryOf (names : List String) (deadline : Duration) :
    Queried names deadline (queryOf names deadline) := by
  cases h : exactly names with
  | error e =>
    obtain ⟨before, after, hnames, hbefore, he⟩ := exists_of_exactly_eq_error h
    rw [queryOf, h]
    exact .refused hnames hbefore he rfl
  | ok types =>
    obtain rfl := exactly_eq_ok_iff.1 h
    rw [queryOf_names]
    refine .asked (fun n hn => ?_) (flags_query types deadline)
    obtain ⟨t, -, rfl⟩ := List.mem_map.1 hn
    exact name_mem t

theorem queryOf_congr {q : List (String × String)} (hsame : ∀ n, n ∈ others ↔ n ∈ names)
    (h : queryOf names deadline = .ok q) : queryOf others deadline = .ok q := by
  obtain ⟨types, rfl, rfl⟩ := exists_of_queryOf h
  cases hothers : exactly others with
  | error e =>
    obtain ⟨before, after, rfl, -, he⟩ := exists_of_exactly_eq_error hothers
    obtain ⟨t, -, ht⟩ := List.mem_map.1 ((hsame e.name).1 (by simp))
    exact absurd (ht ▸ name_mem t) he
  | ok kinds =>
    obtain rfl := exactly_eq_ok_iff.1 hothers
    rw [queryOf_names, query, query]
    refine congrArg _ (congrArg _ (List.map_congr_left fun t _ => ?_))
    have ht : t ∈ kinds ↔ t ∈ types := by
      simpa only [List.mem_map_of_injective name_injective] using hsame t.name
    simp [ht]

theorem either_query (types kinds : List DataType) (deadline : Duration) :
    either (query types deadline) (query kinds deadline) = query (types ++ kinds) deadline := by
  rw [either, query, query, query, List.zipWith_cons_cons, List.zipWith_map, List.zipWith_self]
  refine congr (congrArg _ ?_) (List.map_congr_left fun t _ => ?_)
  · simp
  · by_cases hkinds : t ∈ kinds <;> simp [hkinds]

theorem queryOf_append {p q : List (String × String)} (hp : queryOf names deadline = .ok p)
    (hq : queryOf others deadline = .ok q) : queryOf (names ++ others) deadline = .ok (either p q) := by
  obtain ⟨types, rfl, rfl⟩ := exists_of_queryOf hp
  obtain ⟨kinds, rfl, rfl⟩ := exists_of_queryOf hq
  rw [← List.map_append, queryOf_names, either_query]

end Names

end ClusterHealth
