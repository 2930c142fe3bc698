import ClusterHealth.Json.Basic
import ClusterHealth.Proofs.EntryLaws
import Mathlib.Data.List.Forall2

namespace ClusterHealth.Json

open Entries (get? names)

def worth? : Json → Option (Int × Nat)
  | .bool b => some (b.toNat, 1)
  | .int n => some (n, 1)
  | .float x => x.toRatio?
  | _ => none

def sameNumber (v w : Json) : Bool :=
  match v.worth?, w.worth?, v, w with
  | some (a, b), some (c, d), _, _ => a * d == c * b
  | none, none, .float x, .float y => x == y
  | _, _, _, _ => false

mutual

def same : Json → Json → Bool
  | .null, .null => true
  | .str s, .str t => s == t
  | .arr vs, .arr ws => itemsSame vs ws
  | .obj ms, .obj ns => ms.length == ns.length && membersSame ms ns
  | v, w => sameNumber v w

def itemsSame : List Json → List Json → Bool
  | [], [] => true
  | v :: vs, w :: ws => v.same w && itemsSame vs ws
  | _, _ => false

def membersSame : List (AnyText × Json) → Members → Bool
  | [], _ => true
  | (name, v) :: rest, ns =>
    (match ns.get? name with
      | some w => v.same w
      | none => false) && membersSame rest ns

end

/-- A way to compare values that tells them apart as far as they are made of texts, whole numbers and truth
values, in lists item by item, and in objects name by name. -/
structure Comparison (R : Json → Json → Prop) : Prop where
  str {s t : AnyText} : R (.str s) (.str t) ↔ s = t
  int {m n : Int} : R (.int m) (.int n) ↔ m = n
  bool {b c : Bool} : R (.bool b) (.bool c) ↔ b = c
  items {vs ws : List Json} : R (.arr vs) (.arr ws) ↔ List.Forall₂ R vs ws
  member {ms ns : Members} {name : AnyText} {v : Json} : R (.obj ms) (.obj ns) → ms.get? name = some v →
    ∃ w, ns.get? name = some w ∧ R v w

abbrev Fieldwise (R : Json → Json → Prop) (ms ns : Members) : Prop :=
  List.Forall₂ (fun m n => R m.2 n.2) ms ns

section Comparisons

variable {R : Json → Json → Prop} {ms ns : Members}

theorem Comparison.names_subset (hR : Comparison R) (h : R (.obj ms) (.obj ns)) : names ms ⊆ names ns := by
  intro name hname
  obtain ⟨v, hv⟩ := Option.ne_none_iff_exists'.1 (mt Entries.get?_eq_none_iff.1 (not_not_intro hname))
  obtain ⟨w, hw, -⟩ := hR.member h hv
  exact Entries.mem_names_of_get? hw

theorem Comparison.fields (hR : Comparison R) (h : R (.obj ms) (.obj ns)) (hnames : names ms = names ns)
    (hnodup : (names ns).Nodup) : Fieldwise R ms ns := by
  have hpairs : List.Forall₂ (fun m n => m.1 = n.1) ms ns := by
    rwa [names, names, ← List.forall₂_eq_eq_eq, List.forall₂_map_left_iff, List.forall₂_map_right_iff]
      at hnames
  rw [Fieldwise, List.forall₂_iff_zip]
  rw [List.forall₂_iff_zip] at hpairs
  refine ⟨hpairs.1, fun {m n} hmem => ?_⟩
  obtain ⟨hm, hn⟩ := List.of_mem_zip hmem
  obtain ⟨w, hw, hmw⟩ := hR.member h (Entries.get?_of_mem (hnames ▸ hnodup) hm)
  rw [hpairs.2 hmem, Entries.get?_of_mem hnodup hn] at hw
  cases hw
  exact hmw

end Comparisons

theorem comparison_eq : Comparison (· = ·) where
  str := by simp
  int := by simp
  bool := by simp
  items := by simp [List.forall₂_eq_eq_eq]
  member h hv := by
    cases h
    exact ⟨_, hv, rfl⟩

theorem itemsSame_iff {vs ws : List Json} :
    itemsSame vs ws = true ↔ List.Forall₂ (fun v w => v.same w = true) vs ws := by
  induction vs generalizing ws with
  | nil => cases ws <;> simp [itemsSame]
  | cons v vs ih => cases ws <;> simp [itemsSame, ih]

theorem exists_of_membersSame {ms ns : Members} {name : AnyText} {v : Json} (h : membersSame ms ns = true)
    (hv : (name, v) ∈ ms) : ∃ w, ns.get? name = some w ∧ v.same w = true := by
  induction ms with
  | nil => cases hv
  | cons m ms ih =>
    obtain ⟨n, u⟩ := m
    obtain ⟨hm, hms⟩ := Bool.and_eq_true_iff.1 h
    obtain hv | hv := List.mem_cons.1 hv
    · obtain ⟨rfl, rfl⟩ := Prod.mk.inj hv
      cases hw : ns.get? name with
      | none =>
        rw [hw] at hm
        cases hm
      | some w =>
        rw [hw] at hm
        exact ⟨w, rfl, hm⟩
    · exact ih hms hv

theorem comparison_same : Comparison (fun v w => v.same w = true) where
  str := by simp [same]
  int := by simp [same, sameNumber, worth?]
  bool {b c} := by cases b <;> cases c <;> decide
  items := itemsSame_iff
  member {ms ns name v} h hv := by
    obtain ⟨-, h⟩ := Bool.and_eq_true_iff.1 h
    obtain ⟨m, hm, rfl⟩ := Option.map_eq_some_iff.1 hv
    have hname : m.1 = name := by simpa using List.find?_some hm
    exact exists_of_membersSame h (hname ▸ List.mem_of_find?_eq_some hm)

end ClusterHealth.Json
