import ClusterHealth.Number.Numeral
import Mathlib.Algebra.Group.Nat.Defs
import Mathlib.Data.List.Induction

namespace ClusterHealth.Numeral

theorem asciiDigit?_of_isDigit {c : Char} (h : c.isDigit = true) :
    asciiDigit? c = some (c.toNat - 48) := by
  have hrange : 48 ≤ c.val ∧ c.val ≤ 57 := by simpa [Char.isDigit] using h
  exact if_pos hrange

theorem ofDigits_eq_ofDigitChars {cs : List Char} (h : ∀ c ∈ cs, c.isDigit = true) :
    ofDigits (cs.filterMap asciiDigit?) = Nat.ofDigitChars 10 cs 0 := by
  rw [ofDigits, Nat.ofDigitChars]
  generalize 0 = start
  induction cs generalizing start with
  | nil => rfl
  | cons c cs ih =>
    rw [List.filterMap_cons_some (asciiDigit?_of_isDigit (h c (by simp))), List.foldl_cons,
      List.foldl_cons, ih fun d hd => h d (by simp [hd])]
    congr 1
    rw [Nat.mul_comm]
    rfl

theorem isDigit_of_mem_toDigits {n : Nat} {c : Char} (h : c ∈ Nat.toDigits 10 n) :
    c.isDigit = true :=
  Nat.isDigit_of_mem_toDigits (by decide) (by decide) h

theorem ofDigits_zeros_append (k n : Nat) :
    ofDigits ((List.replicate k '0' ++ Nat.toDigits 10 n).filterMap asciiDigit?) = n := by
  have hdigits : ∀ c ∈ List.replicate k '0' ++ Nat.toDigits 10 n, c.isDigit = true := by
    intro c hc
    obtain hc | hc := List.mem_append.1 hc
    · rw [List.eq_of_mem_replicate hc]
      rfl
    · exact isDigit_of_mem_toDigits hc
  rw [ofDigits_eq_ofDigitChars hdigits, Nat.ofDigitChars_append, Nat.ofDigitChars_replicate_zero,
    Nat.mul_zero, Nat.ofDigitChars_ten_toDigits]

theorem ofDigits_toDigits (n : Nat) : ofDigits ((Nat.toDigits 10 n).filterMap asciiDigit?) = n :=
  ofDigits_zeros_append 0 n

theorem ofDigits_append_zeros (n k : Nat) :
    ofDigits ((Nat.toDigits 10 n ++ List.replicate k '0').filterMap asciiDigit?) = n * 10 ^ k := by
  have hdigits : ∀ c ∈ Nat.toDigits 10 n ++ List.replicate k '0', c.isDigit = true := by
    intro c hc
    obtain hc | hc := List.mem_append.1 hc
    · exact isDigit_of_mem_toDigits hc
    · rw [List.eq_of_mem_replicate hc]
      rfl
  rw [ofDigits_eq_ofDigitChars hdigits, Nat.ofDigitChars_append, Nat.ofDigitChars_replicate_zero,
    Nat.ofDigitChars_ten_toDigits, Nat.mul_comm]

theorem asciiDigit?_lt {c : Char} {d : Nat} (h : asciiDigit? c = some d) : d < 10 := by
  unfold asciiDigit? at h
  split at h
  · next hc =>
    obtain rfl : c.toNat - 48 = d := by simpa using h
    have hle : c.toNat ≤ '9'.toNat := hc.2
    have hnine : '9'.toNat = 57 := rfl
    omega
  · cases h

theorem ofDigits_append (ds : List Nat) (d : Nat) : ofDigits (ds ++ [d]) = ofDigits ds * 10 + d := by
  simp [ofDigits]

theorem ofDigits_lt (cs : List Char) :
    ofDigits (cs.filterMap asciiDigit?) < 10 ^ (cs.filterMap asciiDigit?).length := by
  induction cs using List.reverseRecOn with
  | nil => simp [ofDigits]
  | append_singleton cs c ih =>
    rw [List.filterMap_append]
    cases hc : asciiDigit? c with
    | none => simpa [hc] using ih
    | some d =>
      have hd := asciiDigit?_lt hc
      simp only [List.filterMap_cons, hc, List.filterMap_nil, ofDigits_append, List.length_append,
        List.length_singleton, Nat.pow_succ]
      omega

theorem ofDigits_lt_of_length_le {cs : List Char} {n : Nat} (h : cs.length ≤ n) :
    ofDigits (cs.filterMap asciiDigit?) < 10 ^ n :=
  Nat.lt_of_lt_of_le (ofDigits_lt cs)
    (Nat.pow_le_pow_right (by decide) (Nat.le_trans (List.length_filterMap_le ..) h))

theorem exists_toDigits_eq_cons {n : Nat} (hn : n ≠ 0) :
    ∃ c ds, Nat.toDigits 10 n = c :: ds ∧ c ≠ '0' := by
  induction n using Nat.strongRecOn with
  | ind n ih =>
    by_cases hlt : n < 10
    · refine ⟨n.digitChar, [], Nat.toDigits_of_lt_base hlt, ?_⟩
      have : ∀ m < 10, m ≠ 0 → m.digitChar ≠ '0' := by decide
      exact this n hlt hn
    · obtain ⟨c, ds, hds, hc⟩ := ih (n / 10) (by omega) (by omega)
      rw [Nat.toDigits_of_base_le (by decide) (Nat.le_of_not_lt hlt), hds]
      exact ⟨c, _, rfl, hc⟩

theorem digitChar_of_isDigit {c : Char} (h : c.isDigit = true) :
    c.toNat - '0'.toNat < 10 ∧ (c.toNat - '0'.toNat).digitChar = c := by
  have hrange : 48 ≤ c.val ∧ c.val ≤ 57 := by simpa [Char.isDigit] using h
  have hle : 48 ≤ c.toNat ∧ c.toNat ≤ 57 := hrange
  have hzero : '0'.toNat = 48 := rfl
  have hlt : c.toNat - '0'.toNat < 10 := by omega
  refine ⟨hlt, Char.toNat_inj.1 ?_⟩
  rw [Nat.toNat_digitChar_of_lt_ten hlt]
  omega

theorem toDigits_ofDigitChars {cs : List Char} (hdigits : ∀ c ∈ cs, c.isDigit = true) (hne : cs ≠ [])
    (hzero : cs.head? = some '0' → cs = ['0']) : Nat.toDigits 10 (Nat.ofDigitChars 10 cs 0) = cs := by
  induction cs using List.reverseRecOn with
  | nil => exact absurd rfl hne
  | append_singleton ds c ih =>
    obtain ⟨hds, hc⟩ := List.forall_mem_append.1 hdigits
    obtain ⟨hlt, hchar⟩ := digitChar_of_isDigit (hc c List.mem_cons_self)
    rw [Nat.ofDigitChars_append, Nat.ofDigitChars_cons, Nat.ofDigitChars_nil]
    by_cases hnil : ds = []
    · subst hnil
      rw [Nat.ofDigitChars_nil, Nat.mul_zero, Nat.zero_add, Nat.toDigits_of_lt_base hlt, hchar,
        List.nil_append]
    · have hfront : ds.head? ≠ some '0' := by
        intro hhead
        have hlength := congrArg List.length (hzero (by rw [List.head?_append, hhead, Option.some_or]))
        exact hnil (by simpa using hlength)
      have hread := ih hds hnil fun hhead => absurd hhead hfront
      have hpos : 0 < Nat.ofDigitChars 10 ds 0 := by
        refine Nat.pos_of_ne_zero fun hnumber => hfront ?_
        rw [hnumber] at hread
        rw [← hread]
        rfl
      rw [← Nat.toDigits_append_toDigits (by decide) hpos hlt, hread, Nat.toDigits_of_lt_base hlt, hchar]

end ClusterHealth.Numeral
