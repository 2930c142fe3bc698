import ClusterHealth.Json.Decoder
import ClusterHealth.Json.Printer
import ClusterHealth.Proofs.Number.DigitLaws
import ClusterHealth.Proofs.Number.ShortestLaws

namespace ClusterHealth.Json

open ClusterHealth.Numeral

def EndsDigits (rest : List Char) : Prop := ∀ c ∈ rest.head?, isDigit c = false

def EndsNumber (rest : List Char) : Prop :=
  ∀ c ∈ rest.head?, isDigit c = false ∧ c ≠ '.' ∧ c ≠ 'e' ∧ c ≠ 'E'

theorem EndsNumber.endsDigits {rest : List Char} (h : EndsNumber rest) : EndsDigits rest :=
  fun c hc => (h c hc).1

theorem endsNumber_nil : EndsNumber [] := by simp [EndsNumber]

inductive IsWhole : List Char → Prop
  | zero : IsWhole ['0']
  | digits : c ≠ '0' → (∀ d ∈ c :: ds, isDigit d = true) → IsWhole (c :: ds)

section Parts

variable {ds whole fraction rest : List Char} {c : Char}

theorem endsDigits_cons (h : isDigit c = false) : EndsDigits (c :: rest) := by
  rintro d ⟨⟩
  exact h

theorem takeWhile_digits (hds : ∀ c ∈ ds, isDigit c = true) (hrest : EndsDigits rest) :
    (ds ++ rest).takeWhile isDigit = ds := by
  rw [List.takeWhile_append_of_pos hds]
  cases rest with
  | nil => simp
  | cons c rest => simp [hrest c rfl]

theorem dropWhile_digits (hds : ∀ c ∈ ds, isDigit c = true) (hrest : EndsDigits rest) :
    (ds ++ rest).dropWhile isDigit = rest := by
  rw [List.dropWhile_append_of_pos hds]
  cases rest with
  | nil => rfl
  | cons c rest => simp [hrest c rfl]

theorem isWhole_toDigits (n : Nat) : IsWhole (Nat.toDigits 10 n) := by
  by_cases hn : n = 0
  · subst hn
    exact .zero
  · obtain ⟨c, ds, hds, hc⟩ := exists_toDigits_eq_cons hn
    exact hds ▸ .digits hc fun d hd => isDigit_of_mem_toDigits (hds ▸ hd)

theorem IsWhole.take {k : Nat} (h : IsWhole whole) (hk : 0 < k) : IsWhole (whole.take k) := by
  obtain ⟨k, rfl⟩ := Nat.exists_eq_succ_of_ne_zero hk.ne'
  cases h with
  | zero => simpa using IsWhole.zero
  | @digits c ds hc hds =>
    exact .digits hc fun d hd => hds d (List.mem_of_mem_take (i := k + 1) hd)

theorem wholePart?_append (h : IsWhole whole) (hrest : EndsDigits rest) :
    wholePart? (whole ++ rest) = some (whole, rest) := by
  cases h with
  | zero => rfl
  | @digits c ds hc hdigits =>
    obtain ⟨hfirst, hds⟩ := List.forall_mem_cons.1 hdigits
    rw [List.cons_append, wholePart?, if_pos hfirst, takeWhile_digits hds hrest,
      dropWhile_digits hds hrest]
    exact hc

theorem fractionPart_append (hne : ds ≠ []) (hds : ∀ c ∈ ds, isDigit c = true)
    (hrest : EndsDigits rest) : fractionPart ('.' :: (ds ++ rest)) = (ds, rest) := by
  simp [fractionPart, takeWhile_digits hds hrest, dropWhile_digits hds hrest, hne]

theorem fractionPart_of_ne (h : ∀ c ∈ rest.head?, c ≠ '.') : fractionPart rest = ([], rest) := by
  unfold fractionPart
  split
  · exact absurd rfl (h '.' rfl)
  · rfl

theorem fractionPart_optional (hds : ∀ c ∈ ds, isDigit c = true) (hrest : EndsDigits rest)
    (hpoint : ∀ c ∈ rest.head?, c ≠ '.') :
    fractionPart ((if ds.isEmpty then [] else '.' :: ds) ++ rest) = (ds, rest) := by
  cases ds with
  | nil => exact fractionPart_of_ne hpoint
  | cons d ds => exact fractionPart_append (by simp) hds hrest

theorem exponentPart_append {negative : Bool} (hne : ds ≠ []) (hds : ∀ c ∈ ds, isDigit c = true)
    (hrest : EndsDigits rest) :
    exponentPart ('e' :: (if negative then '-' else '+') :: (ds ++ rest)) =
      (some (if negative then -(ofDigits (ds.filterMap asciiDigit?) : Int)
        else ofDigits (ds.filterMap asciiDigit?)), rest) := by
  cases negative <;>
    simp [exponentPart, sign, takeWhile_digits hds hrest, dropWhile_digits hds hrest, hne]

theorem exponentPart_of_ne (h : ∀ c ∈ rest.head?, c ≠ 'e' ∧ c ≠ 'E') :
    exponentPart rest = (none, rest) := by
  cases rest with
  | nil => rfl
  | cons c rest => simp [exponentPart, h c rfl]

end Parts

section Number

variable {s body whole fraction left rest : List Char} {exponent : Option Int}

def minus (negative : Bool) : List Char := if negative then ['-'] else []

theorem exists_digit_of_wholePart (h : wholePart? body = some (whole, rest)) :
    ∃ c tail, body = c :: tail ∧ isDigit c = true := by
  unfold wholePart? at h
  split at h
  · exact ⟨_, _, rfl, rfl⟩
  · split at h
    · next hc => exact ⟨_, _, rfl, hc⟩
    · cases h
  · cases h

theorem number_eq (negative : Bool) (hwhole : wholePart? body = some (whole, s))
    (hfraction : fractionPart s = (fraction, left)) (hexponent : exponentPart left = (exponent, rest)) :
    number (minus negative ++ body) =
      if fraction.isEmpty ∧ exponent.isNone then
        if digitLimit < whole.length then .error (.tooManyDigits whole.length)
        else .ok (.int (if negative then -(ofDigits ((whole ++ fraction).filterMap asciiDigit?) : Int)
          else ofDigits ((whole ++ fraction).filterMap asciiDigit?)), rest)
      else .ok (.float (.ofDecimal negative (ofDigits ((whole ++ fraction).filterMap asciiDigit?))
        (exponent.getD 0 - fraction.length)), rest) := by
  obtain ⟨c, tail, rfl, hc⟩ := exists_digit_of_wholePart hwhole
  have hminus : c ≠ '-' := by
    rintro rfl
    cases hc
  cases negative with
  | true => simp [number, minus, hwhole, hfraction, hexponent]
  | false => simp [number, minus, hminus, hwhole, hfraction, hexponent]

theorem toList_toString_int (n : Int) :
    (toString n).toList = minus (decide (n < 0)) ++ Nat.toDigits 10 n.natAbs := by
  cases n with
  | ofNat n => simp [minus, Int.repr, Nat.repr]
  | negSucc n => simp [minus, Int.repr, Nat.repr]

theorem signed_natAbs (n : Int) : (if decide (n < 0) then -(n.natAbs : Int) else n.natAbs) = n := by
  split
  · next h =>
    have := of_decide_eq_true h
    omega
  · next h =>
    have := of_decide_eq_false (Bool.eq_false_iff.2 h)
    omega

theorem number_int {n : Int} (hn : (Nat.toDigits 10 n.natAbs).length ≤ digitLimit)
    (hrest : EndsNumber rest) : number ((toString n).toList ++ rest) = .ok (.int n, rest) := by
  rw [toList_toString_int, List.append_assoc,
    number_eq _ (wholePart?_append (isWhole_toDigits _) hrest.endsDigits)
      (fractionPart_of_ne fun c hc => (hrest c hc).2.1)
      (exponentPart_of_ne fun c hc => (hrest c hc).2.2),
    if_pos ⟨rfl, rfl⟩, if_neg (Nat.not_lt.2 hn), List.append_nil, ofDigits_toDigits, signed_natAbs]

theorem number_fraction (negative : Bool) (hwhole : IsWhole whole) (hne : fraction ≠ [])
    (hfraction : ∀ c ∈ fraction, isDigit c = true) (hrest : EndsNumber rest) :
    number (minus negative ++ (whole ++ '.' :: (fraction ++ rest))) =
      .ok (.float (.ofDecimal negative (ofDigits ((whole ++ fraction).filterMap asciiDigit?))
        (-fraction.length)), rest) := by
  rw [number_eq negative (wholePart?_append hwhole (endsDigits_cons rfl))
      (fractionPart_append hne hfraction hrest.endsDigits)
      (exponentPart_of_ne fun c hc => (hrest c hc).2.2), if_neg (by simp [hne])]
  simp

theorem number_exponent (negative negativeExponent : Bool) (hwhole : IsWhole whole)
    (hfraction : ∀ c ∈ fraction, isDigit c = true) {ds : List Char} (hne : ds ≠ [])
    (hds : ∀ c ∈ ds, isDigit c = true) (hrest : EndsNumber rest) :
    number (minus negative ++ (whole ++ ((if fraction.isEmpty then [] else '.' :: fraction) ++
        'e' :: (if negativeExponent then '-' else '+') :: (ds ++ rest)))) =
      .ok (.float (.ofDecimal negative (ofDigits ((whole ++ fraction).filterMap asciiDigit?))
        ((if negativeExponent then -(ofDigits (ds.filterMap asciiDigit?) : Int)
          else ofDigits (ds.filterMap asciiDigit?)) - fraction.length)), rest) := by
  rw [number_eq negative (wholePart?_append hwhole ?_)
      (fractionPart_optional hfraction (endsDigits_cons rfl) (by simp))
      (exponentPart_append hne hds hrest.endsDigits), if_neg (by simp)]
  · rfl
  · split
    · exact endsDigits_cons rfl
    · exact endsDigits_cons rfl

end Number

section Layouts

variable {rest : List Char}

theorem isDigit_of_mem_zeros {k : Nat} {c : Char} (h : c ∈ List.replicate k '0') :
    isDigit c = true := by
  rw [List.eq_of_mem_replicate h]
  rfl

theorem number_below (negative : Bool) (n zeros : Nat) (hrest : EndsNumber rest) :
    number (minus negative ++
        ('0' :: '.' :: (List.replicate zeros '0' ++ Nat.toDigits 10 n) ++ rest)) =
      .ok (.float (.ofDecimal negative n (-(zeros + (Nat.toDigits 10 n).length : Nat))), rest) := by
  have hdigits : ∀ c ∈ List.replicate zeros '0' ++ Nat.toDigits 10 n, isDigit c = true := by
    intro c hc
    obtain hc | hc := List.mem_append.1 hc
    · exact isDigit_of_mem_zeros hc
    · exact isDigit_of_mem_toDigits hc
  have hread := number_fraction negative .zero (by simp) hdigits hrest
  have hvalue : ofDigits ((['0'] ++ (List.replicate zeros '0' ++ Nat.toDigits 10 n)).filterMap
      asciiDigit?) = n := ofDigits_zeros_append (zeros + 1) n
  rw [hvalue, List.length_append, List.length_replicate] at hread
  exact hread

theorem number_above (negative : Bool) {n zeros : Nat} (hn : n = 0 → zeros = 0)
    (hrest : EndsNumber rest) :
    number (minus negative ++
        (Nat.toDigits 10 n ++ List.replicate zeros '0' ++ ['.', '0'] ++ rest)) =
      .ok (.float (.ofDecimal negative n zeros), rest) := by
  have hwhole : IsWhole (Nat.toDigits 10 n ++ List.replicate zeros '0') := by
    by_cases hzero : n = 0
    · rw [hn hzero, List.replicate_zero, List.append_nil]
      exact isWhole_toDigits n
    · obtain ⟨c, ds, hds, hc⟩ := exists_toDigits_eq_cons hzero
      rw [hds]
      refine .digits hc fun d hd => ?_
      obtain hd | hd := List.mem_append.1 (List.cons_append .. ▸ hd)
      · exact isDigit_of_mem_toDigits (hds ▸ hd)
      · exact isDigit_of_mem_zeros hd
  have hread := number_fraction negative hwhole (List.cons_ne_nil '0' [])
    (fun c hc => List.mem_singleton.1 hc ▸ rfl) hrest
  have hvalue : ofDigits ((Nat.toDigits 10 n ++ List.replicate zeros '0' ++ ['0']).filterMap
      asciiDigit?) = n * 10 ^ (zeros + 1) := by
    rw [List.append_assoc, ← List.replicate_succ', ofDigits_append_zeros]
  have hexponent : -((['0'] : List Char).length : Int) = zeros - (zeros + 1 : Nat) := by
    rw [List.length_singleton]
    omega
  rw [hvalue, hexponent, Decimal.ofDecimal_shift] at hread
  simpa using hread

theorem number_inside (negative : Bool) {n k : Nat} (hk : 0 < k)
    (hlt : k < (Nat.toDigits 10 n).length) (hrest : EndsNumber rest) :
    number (minus negative ++
        ((Nat.toDigits 10 n).take k ++ '.' :: (Nat.toDigits 10 n).drop k ++ rest)) =
      .ok (.float (.ofDecimal negative n (-((Nat.toDigits 10 n).length - k : Nat))), rest) := by
  have hfraction : ∀ c ∈ (Nat.toDigits 10 n).drop k, isDigit c = true := fun c hc =>
    isDigit_of_mem_toDigits (List.mem_of_mem_drop hc)
  have hne : (Nat.toDigits 10 n).drop k ≠ [] := mt List.drop_eq_nil_iff.1 (Nat.not_le.2 hlt)
  have hread := number_fraction negative ((isWhole_toDigits n).take hk) hne hfraction hrest
  rw [List.take_append_drop, ofDigits_toDigits, List.length_drop] at hread
  rwa [List.append_assoc, List.cons_append]

theorem number_scientific (negative negativeExponent : Bool) (n k width : Nat)
    (hrest : EndsNumber rest) :
    number (minus negative ++ ((Nat.toDigits 10 n).take 1 ++
        ((if (Nat.toDigits 10 n).length ≤ 1 then [] else '.' :: (Nat.toDigits 10 n).drop 1) ++
          'e' :: (if negativeExponent then '-' else '+') ::
            (Decimal.padLeft width (Nat.toDigits 10 k) ++ rest)))) =
      .ok (.float (.ofDecimal negative n
        ((if negativeExponent then -(k : Int) else k) - ((Nat.toDigits 10 n).length - 1 : Nat))),
          rest) := by
  have hfraction : ∀ c ∈ (Nat.toDigits 10 n).drop 1, isDigit c = true := fun c hc =>
    isDigit_of_mem_toDigits (List.mem_of_mem_drop hc)
  have hempty : ((Nat.toDigits 10 n).drop 1).isEmpty = true ↔ (Nat.toDigits 10 n).length ≤ 1 := by
    rw [List.isEmpty_iff, List.drop_eq_nil_iff]
  have hne : Decimal.padLeft width (Nat.toDigits 10 k) ≠ [] := by simp [Decimal.padLeft]
  have hdigits : ∀ c ∈ Decimal.padLeft width (Nat.toDigits 10 k), isDigit c = true := by
    intro c hc
    obtain hc | hc := List.mem_append.1 hc
    · exact isDigit_of_mem_zeros hc
    · exact isDigit_of_mem_toDigits hc
  have hread := number_exponent negative negativeExponent
    ((isWhole_toDigits n).take Nat.one_pos) hfraction hne hdigits hrest
  have hexponent : ofDigits ((Decimal.padLeft width (Nat.toDigits 10 k)).filterMap asciiDigit?) = k :=
    ofDigits_zeros_append _ k
  simp only [hempty, hexponent, List.take_append_drop, ofDigits_toDigits, List.length_drop] at hread
  exact hread

theorem number_render (l : Decimal.Layout) (negative : Bool) (x : Decimal) (hrest : EndsNumber rest) :
    number (minus negative ++ ((l.render x).toList ++ rest)) =
      .ok (.float (.ofDecimal negative x.digits x.exponent), rest) := by
  obtain ⟨n, e⟩ := x
  have hpos : 0 < (Nat.toDigits 10 n).length := Nat.length_toDigits_pos
  have hzero : n = 0 → (Nat.toDigits 10 n).length = 1 := by
    rintro rfl
    rfl
  unfold Decimal.Layout.render
  dsimp only
  -- the place of the first digit, by which the layout is chosen
  generalize hk : (if n = 0 then (0 : Int) else e + (Nat.toDigits 10 n).length - 1) = k
  -- zero is written without its exponent, which makes no other number of it
  have hexponent (e' : Int) (he : n ≠ 0 → e' = e) :
      Binary64.ofDecimal negative n e' = Binary64.ofDecimal negative n e := by
    by_cases hn : n = 0
    · simp [Binary64.ofDecimal, hn]
    · rw [he hn]
  split
  · split
    · next hfixed hneg =>
      have hn : n ≠ 0 := by
        rintro rfl
        simp at hk
        omega
      rw [if_neg hn] at hk
      rw [String.toList_ofList, number_below negative n _ hrest, hexponent]
      omega
    · split
      · next hfixed hneg habove =>
        rw [String.toList_ofList, number_above negative ?_ hrest, hexponent]
        · intro hn
          rw [if_neg hn] at hk
          omega
        · intro hn
          rw [if_pos hn] at hk
          have := hzero hn
          omega
      · next hfixed hneg habove =>
        have hn : n ≠ 0 := by
          intro hn
          rw [if_pos hn] at hk
          have := hzero hn
          omega
        rw [if_neg hn] at hk
        rw [String.toList_ofList, number_inside negative (by omega) (by omega) hrest, hexponent]
        omega
  · have hread := number_scientific negative (decide (k < 0)) n k.natAbs l.exponentWidth hrest
    rw [hexponent] at hread
    · simpa using hread
    · intro hn
      rw [if_neg hn] at hk
      rw [signed_natAbs]
      omega

theorem number_float (l : Decimal.Layout) (names : NonFinite) {x : Binary64}
    (hx : x.isFinite = true) (hrest : EndsNumber rest) :
    number ((floatText l names x).toList ++ rest) = .ok (.float x, rest) := by
  cases x with
  | nan => cases hx
  | signed negative r =>
    have hr : r.val < Binary64.infinityRank := of_decide_eq_true hx
    have htext : (floatText l names (.signed negative r)).toList =
        minus negative ++ (l.render (Decimal.shortest r.val)).toList := by
      rw [floatText, Binary64.finiteText?, if_pos hr]
      cases negative <;> simp [minus]
    rw [htext, List.append_assoc, number_render l negative _ hrest,
      Decimal.ofDecimal_shortest negative hr]

end Layouts

end ClusterHealth.Json
