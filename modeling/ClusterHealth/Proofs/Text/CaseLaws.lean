import ClusterHealth.Text.LetterCase

namespace ClusterHealth.Text

theorem toLower_cases (c : Char) : c.toLower = c ∨ ∃ n < 26, c = Char.ofNat (65 + n) := by
  unfold Char.toLower
  split
  · next h =>
    have hle : 65 ≤ c.toNat ∧ c.toNat ≤ 90 := h
    refine .inr ⟨c.toNat - 65, by omega, ?_⟩
    rw [Nat.add_sub_cancel' hle.1, Char.ofNat_toNat]
  · exact .inl rfl

theorem lowerChar_of_ascii {c : Char} (before after : List Char) (h : c.toNat < 0x80) :
    lowerChar before c after = [c.toLower] := by
  have hall : ∀ n < 0x80, lowerChar [] (Char.ofNat n) [] = [(Char.ofNat n).toLower] := by decide +kernel
  have hc := hall c.toNat h
  have hsigma : c ≠ 'Σ' := by
    rintro rfl
    exact absurd h (by decide)
  rw [Char.ofNat_toNat, lowerChar, if_neg hsigma] at hc
  rw [lowerChar, if_neg hsigma, hc]

theorem lower_of_ascii {s : String} (h : ∀ c ∈ s.toList, c.toNat < 0x80) :
    lower s = String.ofList (s.toList.map Char.toLower) := by
  have hfrom : ∀ cs before, (∀ c ∈ cs, c.toNat < 0x80) →
      lowerFrom before cs = cs.map Char.toLower := by
    intro cs
    induction cs with
    | nil => exact fun _ _ => rfl
    | cons c cs ih =>
      intro before hcs
      obtain ⟨hc, hcs⟩ := List.forall_mem_cons.1 hcs
      rw [lowerFrom, lowerChar_of_ascii _ _ hc, ih _ hcs]
      rfl
  rw [lower, hfrom _ _ h]

end ClusterHealth.Text
