import ClusterHealth.Proofs.Json.NumberText
import ClusterHealth.Proofs.Text.CuttingLaws

namespace ClusterHealth.Numeral

open ClusterHealth.Text

variable {c : Char} {ds : List Char}

theorem exists_of_isDigit (h : c.isDigit = true) : ∃ n < 10, c = Char.ofNat (48 + n) := by
  have hrange : 48 ≤ c.val ∧ c.val ≤ 57 := by simpa [Char.isDigit] using h
  have hle : 48 ≤ c.toNat ∧ c.toNat ≤ 57 := hrange
  refine ⟨c.toNat - 48, by omega, ?_⟩
  rw [Nat.add_sub_cancel' hle.1, Char.ofNat_toNat]

theorem digitValue?_of_isDigit (h : c.isDigit = true) : digitValue? c = asciiDigit? c := by
  obtain ⟨n, hn, rfl⟩ := exists_of_isDigit h
  have hall : ∀ n < 10, digitValue? (Char.ofNat (48 + n)) = asciiDigit? (Char.ofNat (48 + n)) := by decide
  exact hall n hn

theorem isSpace_of_isDigit (h : c.isDigit = true) : isSpace c = false := by
  obtain ⟨n, hn, rfl⟩ := exists_of_isDigit h
  have hall : ∀ n < 10, isSpace (Char.ofNat (48 + n)) = false := by decide
  exact hall n hn

theorem underscoresPlaced_of_isDigit (h : ∀ c ∈ ds, c.isDigit = true) : underscoresPlaced ds = true := by
  induction ds with
  | nil => rfl
  | cons c ds ih =>
    have hc : c ≠ '_' := by
      rintro rfl
      exact absurd (h '_' (by simp)) (by decide)
    rw [underscoresPlaced]
    · exact ih fun d hd => h d (by simp [hd])
    · simp [hc]
    · simp [hc]

theorem digitRun?_of_isDigit (h : ∀ c ∈ ds, c.isDigit = true) :
    digitRun? digitValue? ds = some (ds.filterMap asciiDigit?, []) := by
  have hrun : ∀ c ∈ ds, (c == '_' || (digitValue? c).isSome) = true := fun c hc => by
    rw [digitValue?_of_isDigit (h c hc), asciiDigit?_of_isDigit (h c hc)]
    simp
  have hhead : ds.head? ≠ some '_' := fun hhead =>
    absurd (h '_' (List.mem_of_mem_head? hhead)) (by decide)
  rw [digitRun?, List.takeWhile_eq_self_iff.2 hrun, List.dropWhile_eq_nil_iff.2 hrun]
  simp only [hhead, underscoresPlaced_of_isDigit h, Bool.not_true, Bool.false_eq_true, or_self, if_false]
  rw [List.filterMap_congr fun c hc => digitValue?_of_isDigit (h c hc)]

theorem sign_minus_append (negative : Bool) (hne : ds ≠ []) (h : ∀ c ∈ ds, c.isDigit = true) :
    sign (Json.minus negative ++ ds) = (negative, ds) := by
  cases negative with
  | true => rfl
  | false =>
    obtain ⟨c, ds, rfl⟩ := List.exists_cons_of_ne_nil hne
    have hc := h c (by simp)
    rw [Json.minus, if_neg Bool.false_ne_true, List.nil_append, sign]
    · rintro rest heq
      rw [(List.cons.inj heq).1] at hc
      exact absurd hc (by decide)
    · rintro rest heq
      rw [(List.cons.inj heq).1] at hc
      exact absurd hc (by decide)

theorem trimmed_minus_append (negative : Bool) (hne : ds ≠ []) (h : ∀ c ∈ ds, c.isDigit = true) :
    Trimmed isSpace (Json.minus negative ++ ds) where
  first c hc := by
    cases negative with
    | true =>
      obtain rfl : '-' = c := by simpa [Json.minus] using hc
      decide
    | false => exact isSpace_of_isDigit (h c (List.mem_of_mem_head? hc))
  last c hc := by
    rw [List.getLast?_append_of_ne_nil _ hne] at hc
    exact isSpace_of_isDigit (h c (List.mem_of_getLast? hc))

theorem int_toString {n m : Int} (h : int (toString n) = .ok m) : m = n := by
  have hdigits : ∀ c ∈ Nat.toDigits 10 n.natAbs, c.isDigit = true := fun _ => isDigit_of_mem_toDigits
  have hne : Nat.toDigits 10 n.natAbs ≠ [] := Nat.toDigits_ne_nil
  rw [int, Json.toList_toString_int, (trimmed_minus_append _ hne hdigits).trimBy_eq,
    sign_minus_append _ hne hdigits] at h
  simp only [digitRun?_of_isDigit hdigits] at h
  split at h
  · cases h
  · cases h
  · next ds rest _ heq =>
    obtain ⟨rfl, rfl⟩ : _ = ds ∧ [] = rest := by simpa using heq
    split at h
    · cases h
    · rw [List.isEmpty_nil, if_pos rfl, ofDigits_toDigits, Json.signed_natAbs] at h
      exact (Except.ok.inj h).symm

end ClusterHealth.Numeral
