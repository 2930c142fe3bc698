import ClusterHealth.Proofs.Report.Calendar
import Mathlib.Data.List.Basic

namespace ClusterHealth.Report.Timestamp

open ClusterHealth.Numeral

section Digits

variable {width n : Nat}

theorem toList_padded (width n : Nat) : (padded width n).toList =
    List.replicate (width - (Nat.toDigits 10 n).length) '0' ++ Nat.toDigits 10 n := by
  simp [padded]

theorem isDigit_of_mem_padded {c : Char} (h : c ∈ (padded width n).toList) : c.isDigit = true := by
  rw [toList_padded, List.mem_append] at h
  obtain h | h := h
  · rw [List.eq_of_mem_replicate h]
    rfl
  · exact Nat.isDigit_of_mem_toDigits (by decide) (by decide) h

theorem length_padded (hw : 0 < width) (h : n < 10 ^ width) :
    (padded width n).toList.length = width := by
  have hle := (Nat.length_toDigits_le_iff (by decide) hw).2 h
  rw [toList_padded, List.length_append, List.length_replicate]
  omega

theorem ofDigits_padded (width n : Nat) :
    ofDigits ((padded width n).toList.filterMap asciiDigit?) = n := by
  rw [toList_padded, ofDigits_zeros_append]

theorem number_padded (width n : Nat) : number (padded width n).toList = some n := by
  have hall : (padded width n).toList.all Char.isDigit = true :=
    List.all_eq_true.2 fun _ => isDigit_of_mem_padded
  rw [number, if_pos hall, ofDigits_padded]

theorem exists_two (h : n ≤ 99) :
    ∃ a b, (padded 2 n).toList = [a, b] ∧ number [a, b] = some n := by
  have hlength : (padded 2 n).toList.length = 2 :=
    length_padded (by decide) (Nat.lt_succ_of_le h)
  obtain ⟨a, b, hab⟩ := List.length_eq_two.1 hlength
  exact ⟨a, b, hab, hab ▸ number_padded 2 n⟩

theorem exists_four (h : n ≤ 9999) :
    ∃ a b c d, (padded 4 n).toList = [a, b, c, d] ∧ number [a, b, c, d] = some n := by
  have hlength : (padded 4 n).toList.length = 4 :=
    length_padded (by decide) (Nat.lt_succ_of_le h)
  have hnumber := number_padded 4 n
  generalize (padded 4 n).toList = cs at *
  match cs, hlength with
  | [a, b, c, d], _ => exact ⟨a, b, c, d, rfl, hnumber⟩

theorem micros_padded (h : n ≤ 999999) : micros (padded 6 n).toList = n := by
  have hlength : (padded 6 n).toList.length = 6 :=
    length_padded (by decide) (Nat.lt_succ_of_le h)
  have hdigits : ((padded 6 n).toList.filterMap asciiDigit?).length = 6 := by
    rw [List.filterMap_eq_map_iff_forall_eq_some.2 fun c hc =>
      asciiDigit?_of_isDigit (isDigit_of_mem_padded hc), List.length_map, hlength]
  rw [micros, List.take_of_length_le (Nat.le_of_eq hlength), hdigits, ofDigits_padded]
  simp

end Digits

theorem offsetDigits_padded {hours minutes : Nat} (hh : hours ≤ 23) (hm : minutes ≤ 59)
    (negative : Bool) :
    offsetDigits? negative ((padded 2 hours).toList ++ ':' :: (padded 2 minutes).toList) =
      some (some (if negative then -((hours * 60 + minutes : Nat) : Int)
        else ((hours * 60 + minutes : Nat) : Int))) := by
  obtain ⟨a, b, hab, hhours⟩ := exists_two (n := hours) (by omega)
  obtain ⟨c, d, hcd, hminutes⟩ := exists_two (n := minutes) (by omega)
  rw [hab, hcd]
  simp [offsetDigits?, hhours, hminutes, Nat.not_lt.2 hh, Nat.not_lt.2 hm]

theorem offset_offsetText {o : Option Int} (h : ∀ n ∈ o, n.natAbs ≤ 23 * 60 + 59) :
    offset? (offsetText o).toList = some o := by
  cases o with
  | none => rfl
  | some n =>
    have hn := h n rfl
    have hhours : n.natAbs / 60 ≤ 23 := by omega
    have hminutes : n.natAbs % 60 ≤ 59 := by omega
    have hdigits := offsetDigits_padded hhours hminutes
    rw [Nat.div_add_mod'] at hdigits
    obtain hneg | rfl | hpos := lt_trichotomy n 0
    · have htext : (offsetText (some n)).toList =
          '-' :: ((padded 2 (n.natAbs / 60)).toList ++ ':' :: (padded 2 (n.natAbs % 60)).toList) := by
        simp [offsetText, hneg, hneg.ne]
      have habs : -(n.natAbs : Int) = n := by omega
      rw [htext, offset?, hdigits true, if_pos rfl, habs]
    · rfl
    · have htext : (offsetText (some n)).toList =
          '+' :: ((padded 2 (n.natAbs / 60)).toList ++ ':' :: (padded 2 (n.natAbs % 60)).toList) := by
        simp [offsetText, hpos.not_gt, hpos.ne']
      have habs : (n.natAbs : Int) = n := by omega
      rw [htext, offset?, hdigits false, if_neg Bool.false_ne_true, habs]

/-- No text of an offset begins with a digit, nor with what begins a fraction. -/
theorem head_offsetText (o : Option Int) :
    ∀ c ∈ (offsetText o).toList.head?, c = 'Z' ∨ c = '-' ∨ c = '+' := by
  cases o with
  | none => simp [offsetText]
  | some n =>
    by_cases h0 : n = 0
    · simp [offsetText, h0]
    · by_cases hneg : n < 0 <;> simp [offsetText, h0, hneg]

def fractionText (micro : Nat) : List Char :=
  if micro = 0 then [] else '.' :: (padded 6 micro).toList

theorem seconds_padded {second micro : Nat} {tail : List Char} (hs : second ≤ 59)
    (hm : micro ≤ 999999) (ht : ∀ c ∈ tail.head?, c = 'Z' ∨ c = '-' ∨ c = '+') :
    seconds? (':' :: ((padded 2 second).toList ++ (fractionText micro ++ tail))) =
      some ((second, micro), tail) := by
  obtain ⟨a, b, hab, hnumber⟩ := exists_two (n := second) (by omega)
  rw [hab, fractionText]
  by_cases hzero : micro = 0
  · rw [if_pos hzero, hzero]
    cases tail with
    | nil => simp [seconds?, hnumber, Nat.not_lt.2 hs]
    | cons c tail =>
      obtain rfl | rfl | rfl := ht c rfl <;> simp [seconds?, hnumber, Nat.not_lt.2 hs]
  · have hdigits : ∀ c ∈ (padded 6 micro).toList, c.isDigit = true := fun _ => isDigit_of_mem_padded
    have htail : tail.takeWhile Char.isDigit = [] ∧ tail.dropWhile Char.isDigit = tail := by
      cases tail with
      | nil => exact ⟨rfl, rfl⟩
      | cons c tail => obtain rfl | rfl | rfl := ht c rfl <;> exact ⟨rfl, rfl⟩
    have hlength : (padded 6 micro).toList.length = 6 :=
      length_padded (by decide) (Nat.lt_succ_of_le hm)
    have hne : (padded 6 micro).toList ≠ [] := List.ne_nil_of_length_eq_add_one hlength
    rw [if_neg hzero]
    simp only [seconds?, List.cons_append, List.nil_append, Option.bind_eq_bind, hnumber,
      Option.bind_some, if_neg (Nat.not_lt.2 hs), List.takeWhile_append_of_pos hdigits,
      List.dropWhile_append_of_pos hdigits, htail.1, htail.2, List.append_nil]
    rw [if_neg (by simpa using hne), micros_padded hm]

theorem toList_render (t : Timestamp) : t.render.toList =
    (padded 4 t.year).toList ++ '-' :: ((padded 2 t.month).toList ++ '-' ::
      ((padded 2 t.day).toList ++ 'T' :: ((padded 2 t.hour).toList ++ ':' ::
        ((padded 2 t.minute).toList ++ ':' :: ((padded 2 t.second).toList ++
          (fractionText t.micro ++ (offsetText t.offset).toList)))))) := by
  have hfraction : (if t.micro = 0 then "" else "." ++ padded 6 t.micro).toList =
      fractionText t.micro := by
    unfold fractionText
    split <;> simp
  simp [render, hfraction]

theorem ofCalendar_render {t : Timestamp} (h : t.Valid) : ofCalendar? t.render = some t := by
  obtain ⟨y1, y2, y3, y4, hyear, hyearNumber⟩ := exists_four h.year.2
  obtain ⟨m1, m2, hmonth, hmonthNumber⟩ := exists_two (n := t.month) (by have := h.month; omega)
  have hdays : daysIn t.year t.month ≤ 31 := by
    unfold daysIn
    split
    · split <;> omega
    all_goals omega
  obtain ⟨d1, d2, hday, hdayNumber⟩ := exists_two (n := t.day) (by have := h.day; omega)
  obtain ⟨h1, h2, hhour, hhourNumber⟩ := exists_two (n := t.hour) (by have := h.hour; omega)
  obtain ⟨n1, n2, hminute, hminuteNumber⟩ :=
    exists_two (n := t.minute) (by have := h.minute; omega)
  rw [ofCalendar?, toList_render, hyear, hmonth, hday, hhour, hminute]
  have hdate : 1 ≤ t.month ∧ t.month ≤ 12 ∧ 1 ≤ t.day ∧ t.day ≤ daysIn t.year t.month :=
    ⟨h.month.1, h.month.2, h.day.1, h.day.2⟩
  have htime : ¬ ((!isSeparator 'T') = true ∨ 23 < t.hour ∨ 59 < t.minute) := by
    have := h.hour
    have := h.minute
    simp [isSeparator]
    omega
  simp only [date?, List.cons_append, List.nil_append, Option.bind_eq_bind, hyearNumber,
    hmonthNumber, hdayNumber, hhourNumber, hminuteNumber, Option.bind_some, if_pos hdate]
  rw [if_neg htime, seconds_padded h.second h.micro (head_offsetText _), Option.bind_some,
    offset_offsetText h.offset, Option.bind_some]

theorem ofJson_render {t : Timestamp} (h : t.Valid) : ofJson (.str t.render) = .ok t := by
  have hyear : t.year ≠ 0 := Nat.ne_of_gt h.year.1
  simp [ofJson, ofText, ofCalendar_render h, hyear]

end ClusterHealth.Report.Timestamp
