import ClusterHealth.Proofs.Json.RoundTrip

namespace ClusterHealth

namespace Json

open ClusterHealth.Numeral

theorem itemsReadable_iff {vs : List Json} :
    itemsReadable vs = true ↔ ∀ v ∈ vs, v.isReadable = true := by
  induction vs with
  | nil => simp [itemsReadable]
  | cons v vs ih => simp [itemsReadable, ih]

theorem membersReadable_iff {ms : Members} :
    membersReadable ms = true ↔ ∀ m ∈ ms, m.2.isReadable = true := by
  induction ms with
  | nil => simp [membersReadable]
  | cons m ms ih => simp [membersReadable, ih]

theorem isReadable_obj_iff {ms : Members} : (obj ms).isReadable = true ↔
    (Entries.names ms).Nodup ∧ ∀ m ∈ ms, m.2.isReadable = true := by
  rw [isReadable, Bool.and_eq_true, decide_eq_true_iff, membersReadable_iff]

theorem isReadable_put {ms : Members} {name : AnyText} {v : Json} (hms : (obj ms).isReadable = true)
    (hv : v.isReadable = true) : (obj (ms.put name v)).isReadable = true := by
  obtain ⟨hnodup, hmembers⟩ := isReadable_obj_iff.1 hms
  refine isReadable_obj_iff.2 ⟨Entries.nodup_names_put hnodup, fun m hm => ?_⟩
  obtain rfl | hm := Entries.mem_put hm
  · exact hv
  · exact hmembers m hm

section Scalars

variable {s left : List Char} {v : Json}

theorem isReadable_int (negative : Bool) {cs : List Char}
    (h : (cs.filterMap asciiDigit?).length ≤ digitLimit) :
    (Json.int (if negative then -(ofDigits (cs.filterMap asciiDigit?) : Int)
      else ofDigits (cs.filterMap asciiDigit?))).isReadable = true := by
  have hlt : ofDigits (cs.filterMap asciiDigit?) < 10 ^ digitLimit :=
    (ofDigits_lt cs).trans_le (Nat.pow_le_pow_right (by decide) h)
  have hle := (Nat.length_toDigits_le_iff (by decide) (by decide)).2 hlt
  refine decide_eq_true ?_
  split
  · rwa [Int.natAbs_neg, Int.natAbs_natCast]
  · rwa [Int.natAbs_natCast]

theorem isReadable_of_number (h : number s = .ok (v, left)) : v.isReadable = true := by
  unfold number at h
  split at h
  next negative body hsign =>
  split at h
  · cases h
  next whole rest hwhole =>
  dsimp only at h
  split at h
  · next hint =>
    split at h
    · cases h
    · next hdigits =>
      obtain ⟨rfl, -⟩ := Prod.mk.inj (Except.ok.inj h)
      have hfraction : (fractionPart rest).1 = [] := List.isEmpty_iff.1 hint.1
      rw [hfraction, List.append_nil]
      exact isReadable_int negative
        ((List.length_filterMap_le ..).trans (Nat.le_of_not_lt hdigits))
  · obtain ⟨rfl, -⟩ := Prod.mk.inj (Except.ok.inj h)
    rfl

theorem isReadable_of_word (h : word? s = some (v, left)) : v.isReadable = true := by
  obtain ⟨⟨w, u⟩, hmem, hw⟩ := List.exists_of_findSome?_eq_some h
  have hwords : ∀ x ∈ wordValues, x.2.isReadable = true := by decide
  simp only [Option.ite_none_right_eq_some, Option.some.injEq, Prod.mk.injEq] at hw
  obtain ⟨-, rfl, -⟩ := hw
  exact hwords _ hmem

theorem isReadable_of_scalar (h : scalar s = .ok (v, left)) : v.isReadable = true := by
  unfold scalar at h
  split at h
  · next rest =>
    cases hs : string rest with
    | error e => simp [hs, Except.map] at h
    | ok r =>
      obtain ⟨rfl, -⟩ : Json.str r.1 = v ∧ _ := by simpa [hs, Except.map] using h
      rfl
  · split at h
    · next r hw =>
      cases h
      exact isReadable_of_word hw
    · exact isReadable_of_number h

end Scalars

/-- What is decoded in at most `steps` steps is readable, given that what was read before it is. -/
structure Decoded (steps : Nat) : Prop where
  value : ∀ {levels s v left}, Json.value steps levels s = .ok (v, left) → v.isReadable = true
  items : ∀ {levels out s v left}, (∀ w ∈ out, Json.isReadable w = true) →
    Json.items steps levels out s = .ok (v, left) → v.isReadable = true
  members : ∀ {levels out s v left}, (obj out).isReadable = true →
    Json.members steps levels out s = .ok (v, left) → v.isReadable = true

section Steps

variable {steps levels : Nat} {s left : List Char} {v : Json}

theorem isReadable_value_succ (ih : Decoded steps)
    (h : value (steps + 1) levels s = .ok (v, left)) : v.isReadable = true := by
  unfold value at h
  split at h
  · split at h
    · cases h
    · split at h
      · cases h
        rfl
      · exact ih.items (by simp) h
  · split at h
    · cases h
    · split at h
      · cases h
        rfl
      · exact ih.members rfl h
  · exact isReadable_of_scalar h

theorem isReadable_items_succ (ih : Decoded steps) {out : List Json}
    (hout : ∀ w ∈ out, w.isReadable = true) (h : items (steps + 1) levels out s = .ok (v, left)) :
    v.isReadable = true := by
  unfold items at h
  split at h
  · cases h
  next u rest hvalue =>
  have hall : ∀ w ∈ u :: out, w.isReadable = true := List.forall_mem_cons.2 ⟨ih.value hvalue, hout⟩
  split at h
  · cases h
    exact itemsReadable_iff.2 fun w hw => hall w (List.mem_reverse.1 hw)
  · exact ih.items hall h
  · cases h

theorem isReadable_members_succ (ih : Decoded steps) {out : Members}
    (hout : (obj out).isReadable = true) (h : members (steps + 1) levels out s = .ok (v, left)) :
    v.isReadable = true := by
  unfold members at h
  split at h
  · split at h
    · cases h
    next name _ _ =>
    split at h
    · split at h
      · cases h
      next u rest hvalue =>
      have hput : (obj (out.put name u)).isReadable = true := isReadable_put hout (ih.value hvalue)
      dsimp only at h
      split at h
      · cases h
        exact hput
      · exact ih.members hput h
      · cases h
    · cases h
  · cases h

theorem decoded (steps : Nat) : Decoded steps := by
  induction steps with
  | zero =>
    refine ⟨fun h => ?_, fun _ h => ?_, fun _ h => ?_⟩
    · simp [value] at h
    · simp [items] at h
    · simp [members] at h
  | succ steps ih =>
    exact ⟨isReadable_value_succ ih, isReadable_items_succ ih, isReadable_members_succ ih⟩

end Steps

theorem isReadable_of_decode {text : String} {v : Json} (h : decode text = .ok v) :
    v.isReadable = true := by
  unfold decode document at h
  dsimp only at h
  split at h
  · cases h
  · split at h
    · next hdocument =>
      cases h
      split at hdocument
      · cases hdocument
      · next hvalue =>
        split at hdocument
        · cases hdocument
          exact (decoded _).value hvalue
        · cases hdocument
    · cases h

end Json

end ClusterHealth
