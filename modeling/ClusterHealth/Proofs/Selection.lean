import ClusterHealth.DataType
import ClusterHealth.Proofs.Text.CuttingLaws
import Mathlib.Data.List.Perm.Basic

namespace ClusterHealth.DataType

open ClusterHealth.Text

variable {names : List String} {n : String}

def IsUnknown (n : String) : Prop := normalize n ≠ "" ∧ ofName? (normalize n) = none

theorem mem_unknown_iff {s : String} :
    s ∈ unknown names ↔ ∃ n ∈ names, IsUnknown n ∧ strip n = s := by
  simp [unknown, IsUnknown, isBlankName, and_assoc]

theorem parse_of_unknown_ne (h : unknown names ≠ []) :
    parse names = .error ⟨sortNames (unknown names)⟩ := by
  unfold parse
  split
  · contradiction
  · rfl

theorem unknown_ne_nil (hn : n ∈ names) (hunknown : IsUnknown n) : unknown names ≠ [] :=
  List.ne_nil_of_mem (mem_unknown_iff.2 ⟨n, hn, hunknown, rfl⟩)

theorem joined_ne_empty {sep : String} (hn : n ∈ names) (hunknown : IsUnknown n) :
    sep.intercalate names ≠ "" := by
  intro hempty
  have hinfix : n.toList <:+: (sep.intercalate names).toList := infix_joined hn
  rw [hempty, String.toList_empty, List.infix_nil, String.toList_eq_nil_iff] at hinfix
  subst hinfix
  exact hunknown.1 (by decide +kernel)

theorem infix_message {e : UnknownNames} {s : String} (h : s ∈ e.names) :
    s.toList <:+: e.message.toList :=
  infix_append (infix_joined h)

theorem exists_refusal (h : ∃ n ∈ names, IsUnknown n) : ∃ e, parse names = .error e ∧
    ∀ n ∈ names, IsUnknown n → (strip n).toList <:+: e.message.toList := by
  obtain ⟨m, hm, hunknown⟩ := h
  refine ⟨_, parse_of_unknown_ne (unknown_ne_nil hm hunknown), fun n hn hunknown => infix_message ?_⟩
  rw [sortNames, List.mem_mergeSort]
  exact mem_unknown_iff.2 ⟨n, hn, hunknown, rfl⟩

theorem resolve_intercalate (hcommas : ∀ n ∈ names, ',' ∉ n.toList)
    (hjoined : ",".intercalate names ≠ "") : resolve (some (",".intercalate names)) = parse names := by
  have hne : names ≠ [] := by
    rintro rfl
    exact hjoined rfl
  have hpieces : pieces ',' (",".intercalate names) = names :=
    pieces_intercalate (by simp) hne hcommas
  rw [resolve, if_neg hjoined, hpieces]

section Names

variable {t : DataType} {s : String}

theorem lower_eq_empty_iff : lower s = "" ↔ s = "" := by
  constructor
  · intro h
    cases hs : s.toList with
    | nil => exact String.toList_eq_nil_iff.1 hs
    | cons c cs =>
      have hnil : lowerChar [] c cs = [] := by
        have hall : lowerFrom [] (c :: cs) = [] := by
          simpa [lower, hs, String.ofList_eq_empty_iff] using h
        rw [lowerFrom] at hall
        exact (List.append_eq_nil_iff.1 hall).1
      unfold lowerChar at hnil
      split at hnil
      · cases hnil
      split at hnil <;> cases hnil
  · rintro rfl
    rfl

theorem name_ne_empty (t : DataType) : t.name ≠ "" := by
  cases t <;> decide

end Names

/-- What has been gathered of the names so far: the kinds that they name, and those that are unknown. -/
structure Gathered where
  kinds : List DataType
  strangers : List String

namespace Gathered

def start : Gathered := ⟨[], []⟩

def take (g : Gathered) (n : String) : Gathered :=
  if isBlankName n then g
  else
    match ofName? (normalize n) with
    | some t => { g with kinds := t :: g.kinds }
    | none => { g with strangers := g.strangers ++ [strip n] }

def outcome (g : Gathered) : Except UnknownNames (List DataType) :=
  if g.strangers = [] then .ok (all.filter g.kinds.contains) else .error ⟨sortNames g.strangers⟩

structure Holds (g : Gathered) (names : List String) : Prop where
  kinds : ∀ t, t ∈ g.kinds ↔ ∃ n ∈ names, ofName? (normalize n) = some t
  strangers : g.strangers = unknown names

theorem Holds.take {g : Gathered} (h : g.Holds names) (n : String) : (g.take n).Holds (names ++ [n]) := by
  have hone : unknown (names ++ [n]) = unknown names ++ unknown [n] := by simp [unknown]
  unfold Gathered.take
  split
  · next hblank =>
    have hn : normalize n = "" := by simpa [isBlankName] using hblank
    constructor
    · intro t
      have hnone : ofName? (normalize n) ≠ some t := by
        rw [hn, Ne, ofName?_eq_some_iff]
        exact name_ne_empty t
      simp [h.kinds, or_and_right, exists_or, hnone]
    · rw [hone, ← h.strangers]
      simp [unknown, hblank]
  split
  · next t hsome =>
    constructor
    · intro s
      simp [h.kinds, or_and_right, exists_or, hsome, or_comm, eq_comm]
    · rw [hone, ← h.strangers]
      simp [unknown, hsome]
  · next hspoken _ hnone =>
    constructor
    · intro s
      simp [h.kinds, or_and_right, exists_or, hnone]
    · rw [hone, ← h.strangers]
      simp [unknown, hnone, hspoken]

theorem holds_foldl (names : List String) : (names.foldl Gathered.take start).Holds names := by
  induction names using List.reverseRecOn with
  | nil => exact ⟨by simp [start], by rw [unknown]; rfl⟩
  | append_singleton names n ih =>
    rw [List.foldl_append, List.foldl_cons, List.foldl_nil]
    exact ih.take n

end Gathered

theorem parse_eq_outcome (names : List String) :
    parse names = (names.foldl Gathered.take .start).outcome := by
  have h := Gathered.holds_foldl names
  generalize names.foldl Gathered.take .start = g at *
  have hselect : select names = all.filter g.kinds.contains := by
    refine List.filter_congr fun t _ => ?_
    rw [Bool.eq_iff_iff]
    simp [h.kinds]
  rw [Gathered.outcome, h.strangers, parse, hselect]
  split <;> simp_all

section Specification

variable {others : List String} {types : List DataType} {r r' : Except UnknownNames (List DataType)}
  {t : DataType}

def IsKnown (n : String) : Prop := lower (strip n) ∈ all.map name

instance (n : String) : Decidable (IsKnown n) := inferInstanceAs (Decidable (_ ∈ _))

def spoken (names : List String) : List String := names.filter fun n => decide (strip n ≠ "")

def strangers (names : List String) : List String :=
  ((spoken names).filter fun n => decide (¬ IsKnown n)).map strip

inductive Resolves (names : List String) : Except UnknownNames (List DataType) → Prop
  | accepted {types : List DataType} : (∀ n ∈ names, strip n ≠ "" → IsKnown n) → types.Sublist all →
      (∀ t, t ∈ types ↔ ∃ n ∈ names, t.name = lower (strip n)) → Resolves names (.ok types)
  | refused {e : UnknownNames} : e.names ≠ [] → e.names.Pairwise (· ≤ ·) →
      e.names.Perm (strangers names) →
      e.message = "unknown health data type(s): " ++ ", ".intercalate e.names → Resolves names (.error e)

theorem isUnknown_iff : IsUnknown n ↔ strip n ≠ "" ∧ ¬ IsKnown n := by
  rw [IsUnknown, normalize, Ne, lower_eq_empty_iff, ofName?_eq_none_iff]
  rfl

theorem unknown_eq (names : List String) : unknown names = strangers names := by
  rw [unknown, strangers, spoken, List.filter_filter]
  refine congrArg _ (List.filter_congr fun n _ => ?_)
  have h : IsUnknown n ↔ strip n ≠ "" ∧ ¬ IsKnown n := isUnknown_iff
  rw [Bool.eq_iff_iff]
  simpa [IsUnknown, isBlankName, and_comm] using h

theorem strangers_eq_nil_iff : strangers names = [] ↔ ∀ n ∈ names, strip n ≠ "" → IsKnown n := by
  simp [strangers, spoken, not_imp_comm]

theorem mem_select_iff : t ∈ select names ↔ ∃ n ∈ names, t.name = lower (strip n) := by
  simp [select, mem_all, ofName?_eq_some_iff, normalize]

theorem sorted_sortNames (names : List String) : (sortNames names).Pairwise (· ≤ ·) := by
  have h : (sortNames names).Pairwise fun a b => decide (a ≤ b) = true := List.pairwise_mergeSort
    (fun a b c => by simpa using String.le_trans) (fun a b => by simpa using String.le_total a b) names
  exact h.imp of_decide_eq_true

theorem resolves_parse (names : List String) : Resolves names (parse names) := by
  rw [parse, unknown_eq]
  split
  · next hnone => exact .accepted (strangers_eq_nil_iff.1 hnone) List.filter_sublist fun t => mem_select_iff
  · next hsome =>
    have hperm := List.mergeSort_perm (strangers names) fun a b => decide (a ≤ b)
    refine .refused (fun hnil => hsome ?_) (sorted_sortNames _) hperm rfl
    exact List.perm_nil.1 (hnil ▸ hperm.symm)

theorem Resolves.unique (h : Resolves names r) (h' : Resolves names r') : r = r' := by
  have hall : all.Nodup := by decide
  cases h with
  | accepted hknown hsub hmem =>
    cases h' with
    | accepted _ hsub' hmem' =>
      have hperm := (List.perm_ext_iff_of_nodup (hsub.nodup hall) (hsub'.nodup hall)).2 fun t =>
        (hmem t).trans (hmem' t).symm
      exact congrArg _ ((List.Nodup.perm_iff_eq_of_sublist hall hsub hsub').1 hperm)
    | refused hne _ hperm =>
      rw [strangers_eq_nil_iff.2 hknown] at hperm
      exact absurd (List.perm_nil.1 hperm) hne
  | @refused e hne hsorted hperm =>
    cases h' with
    | accepted hknown =>
      rw [strangers_eq_nil_iff.2 hknown] at hperm
      exact absurd (List.perm_nil.1 hperm) hne
    | @refused e' _ hsorted' hperm' =>
      have hnames : e.names = e'.names := List.Perm.eq_of_pairwise
        (fun a b _ _ => String.le_antisymm) hsorted hsorted' (hperm.trans hperm'.symm)
      obtain ⟨ns⟩ := e
      exact congrArg _ (congrArg _ hnames)

theorem mem_spoken_iff : n ∈ spoken names ↔ n ∈ names ∧ strip n ≠ "" := by
  simp [spoken]

theorem exists_spoken_iff (names : List String) : (∃ n ∈ spoken names, t.name = lower (strip n)) ↔
    ∃ n ∈ names, t.name = lower (strip n) := by
  constructor
  · rintro ⟨n, hn, ht⟩
    exact ⟨n, (mem_spoken_iff.1 hn).1, ht⟩
  · rintro ⟨n, hn, ht⟩
    refine ⟨n, mem_spoken_iff.2 ⟨hn, fun hblank => name_ne_empty t ?_⟩, ht⟩
    rw [ht, hblank]
    rfl

theorem Resolves.of_perm (h : Resolves names r) (hperm : (spoken names).Perm (spoken others)) :
    Resolves others r := by
  have hstrangers : (strangers names).Perm (strangers others) := (hperm.filter _).map _
  cases h with
  | accepted hknown hsub hmem =>
    rw [← strangers_eq_nil_iff] at hknown
    refine .accepted (strangers_eq_nil_iff.1 ?_) hsub fun t => ?_
    · exact List.perm_nil.1 (hknown ▸ hstrangers.symm)
    · rw [hmem, ← exists_spoken_iff names, ← exists_spoken_iff others]
      simp only [hperm.mem_iff]
  | refused hne hsorted hnames hmessage =>
    exact .refused hne hsorted (hnames.trans hstrangers) hmessage

theorem parse_eq_of_perm (hperm : (spoken names).Perm (spoken others)) : parse others = parse names :=
  (resolves_parse others).unique ((resolves_parse names).of_perm hperm)

theorem exists_parse_eq_ok_iff :
    (∃ types, parse names = .ok types) ↔ ∀ n ∈ names, strip n ≠ "" → IsKnown n := by
  constructor
  · rintro ⟨types, htypes⟩
    have h := htypes ▸ resolves_parse names
    cases h with
    | accepted hknown => exact hknown
  · intro hknown
    rw [parse, unknown_eq, strangers_eq_nil_iff.2 hknown]
    exact ⟨_, rfl⟩

theorem mem_of_parse_eq_ok (h : parse names = .ok types) :
    t ∈ types ↔ ∃ n ∈ names, t.name = lower (strip n) := by
  have h := h ▸ resolves_parse names
  cases h with
  | accepted _ _ hmem => exact hmem t

theorem parse_resolves (names : List String) :
    Resolves names (parse names) ∧
    parse names = (names.foldl Gathered.take .start).outcome ∧
    (∀ others, (spoken names).Perm (spoken others) → parse others = parse names) ∧
    ∀ others,
      ((∃ types, parse (names ++ others) = .ok types) ↔
        (∃ types, parse names = .ok types) ∧ ∃ types, parse others = .ok types) ∧
      ∀ a b c, parse names = .ok a → parse others = .ok b → parse (names ++ others) = .ok c →
        ∀ t, t ∈ c ↔ t ∈ a ∨ t ∈ b := by
  refine ⟨resolves_parse names, parse_eq_outcome names, fun _ => parse_eq_of_perm,
    fun others => ⟨?_, ?_⟩⟩
  · simp only [exists_parse_eq_ok_iff, List.forall_mem_append]
  · intro a b c ha hb hc t
    rw [mem_of_parse_eq_ok ha, mem_of_parse_eq_ok hb, mem_of_parse_eq_ok hc]
    simp only [List.mem_append, or_and_right, exists_or]

theorem parse_resolves_shuffled :
    (spoken [" SysCPU ", "", "perfnet"]).Perm (spoken ["perfnet", "\t", " SysCPU "]) ∧
    parse ["perfnet", "\t", " SysCPU "] = parse [" SysCPU ", "", "perfnet"] ∧
    parse [" SysCPU ", "", "perfnet"] = .ok [perfNet, sysCpu] ∧ parse ["SYSMEM"] = .ok [sysMem] ∧
    ∃ c, parse ([" SysCPU ", "", "perfnet"] ++ ["SYSMEM"]) = .ok c ∧
      ∀ t, t ∈ c ↔ t ∈ [perfNet, sysCpu] ∨ t ∈ [sysMem] := by
  have hperm : (spoken [" SysCPU ", "", "perfnet"]).Perm (spoken ["perfnet", "\t", " SysCPU "]) := by
    decide +kernel
  have hnames : parse [" SysCPU ", "", "perfnet"] = .ok [perfNet, sysCpu] := by decide +kernel
  have hothers : parse ["SYSMEM"] = .ok [sysMem] := by decide +kernel
  obtain ⟨-, -, hshuffled, happend⟩ := parse_resolves [" SysCPU ", "", "perfnet"]
  obtain ⟨haccepted, hunion⟩ := happend ["SYSMEM"]
  obtain ⟨c, hc⟩ := haccepted.2 ⟨⟨_, hnames⟩, _, hothers⟩
  exact ⟨hperm, hshuffled _ hperm, hnames, hothers, c, hc, hunion _ _ c hnames hothers hc⟩

end Specification

end ClusterHealth.DataType
