import ClusterHealth.Proofs.Number.DigitLaws
import ClusterHealth.Report.Timestamp
import Mathlib.Order.Monotone.Basic

namespace ClusterHealth.Report.Timestamp

open ClusterHealth.Numeral

structure Valid (t : Timestamp) : Prop where
  year : 1 ≤ t.year ∧ t.year ≤ 9999
  month : 1 ≤ t.month ∧ t.month ≤ 12
  day : 1 ≤ t.day ∧ t.day ≤ daysIn t.year t.month
  hour : t.hour ≤ 23
  minute : t.minute ≤ 59
  second : t.second ≤ 59
  micro : t.micro ≤ 999999
  offset : ∀ n ∈ t.offset, n.natAbs ≤ 23 * 60 + 59

section Count

/-- Days of an era of 400 years that come before a year of it. Years begin with March. -/
def yearStart (year : Nat) : Nat := 365 * year + year / 4 - year / 100

/-- A day of an era, less the days that the leap years before it have brought. -/
def withoutLeapDays (day : Nat) : Nat := day - day / 1460 + day / 36524 - day / 146096

theorem monotone_withoutLeapDays : Monotone withoutLeapDays := by
  refine monotone_nat_of_le_succ fun n => ?_
  simp only [withoutLeapDays]
  omega

theorem withoutLeapDays_yearStart : ∀ year < 400,
    365 * year ≤ withoutLeapDays (yearStart year) ∧
      (0 < year → withoutLeapDays (yearStart year - 1) < 365 * year) := by
  decide +kernel

/-- And so it is right on all days, since the count only grows. -/
theorem yearStart_bounds {day : Nat} (h : day < 146097) :
    withoutLeapDays day / 365 < 400 ∧ yearStart (withoutLeapDays day / 365) ≤ day ∧
      (withoutLeapDays day / 365 + 1 < 400 → day < yearStart (withoutLeapDays day / 365 + 1)) := by
  have hlt : withoutLeapDays day / 365 < 400 := by
    simp only [withoutLeapDays]
    omega
  generalize hy : withoutLeapDays day / 365 = year at hlt
  refine ⟨hlt, ?_, fun hnext => ?_⟩
  · by_contra hbefore
    obtain ⟨-, hstart⟩ := withoutLeapDays_yearStart year hlt
    have hpos : 0 < year := by
      by_contra hzero
      obtain rfl : year = 0 := by omega
      simp [yearStart] at hbefore
    have hmono := monotone_withoutLeapDays (show day ≤ yearStart year - 1 by omega)
    have hstart := hstart hpos
    omega
  · by_contra hbehind
    obtain ⟨hstart, -⟩ := withoutLeapDays_yearStart (year + 1) hnext
    have hmono := monotone_withoutLeapDays (Nat.not_lt.1 hbehind)
    omega

/-- A year that begins with March has a 366th day only if the next February has a 29th. -/
theorem dayOfYear_bounds {day : Nat} (h : day < 146097) :
    day - yearStart (withoutLeapDays day / 365) ≤ 365 ∧
      (day - yearStart (withoutLeapDays day / 365) = 365 → ∀ era : Int,
        1 ≤ (withoutLeapDays day / 365 : Nat) + era * 400 + 1 →
        isLeap ((withoutLeapDays day / 365 : Nat) + era * 400 + 1).toNat = true) := by
  obtain ⟨hlt, hstart, hnext⟩ := yearStart_bounds h
  generalize withoutLeapDays day / 365 = year at *
  have hleap (hlast : day - yearStart year = 365) :
      (year + 1) % 4 = 0 ∧ (year + 1) % 100 ≠ 0 ∨ year = 399 := by
    simp only [yearStart] at *
    by_cases h4 : (year + 1) % 4 = 0
    · by_cases h100 : (year + 1) % 100 = 0
      · have hsame : (year + 1) / 100 = year / 100 + 1 := by omega
        omega
      · exact .inl ⟨h4, h100⟩
    · have hsame : (year + 1) / 4 = year / 4 := by omega
      omega
  refine ⟨by simp only [yearStart] at *; omega, fun hlast era hera => ?_⟩
  simp only [isLeap, Bool.or_eq_true, Bool.and_eq_true, beq_iff_eq, bne_iff_ne]
  have := hleap hlast
  omega

theorem month_bounds : ∀ day < 366,
    let index := (5 * day + 2) / 153
    let month := if index < 10 then index + 3 else index - 9
    let inMonth := day - (153 * index + 2) / 5 + 1
    1 ≤ month ∧ month ≤ 12 ∧ 1 ≤ inMonth ∧
      (inMonth ≤ daysIn 1 month ∨ month = 2 ∧ inMonth = 29 ∧ day = 365) := by
  decide +kernel

theorem daysIn_one_le (year month : Nat) : daysIn 1 month ≤ daysIn year month := by
  unfold daysIn
  split
  · cases isLeap year <;> decide
  all_goals exact Nat.le_refl _

theorem ofDay_bounds (day : Int) :
    1 ≤ (ofDay day).2.1 ∧ (ofDay day).2.1 ≤ 12 ∧ 1 ≤ (ofDay day).2.2 ∧
      (1 ≤ (ofDay day).1 → (ofDay day).2.2 ≤ daysIn (ofDay day).1.toNat (ofDay day).2.1) := by
  have hday : ((day + epochDay) % 146097).toNat < 146097 := by omega
  obtain ⟨hle, hleap⟩ := dayOfYear_bounds hday
  have hmonth := month_bounds _ (Nat.lt_succ_of_le hle)
  simp only [ofDay]
  generalize ((day + epochDay) % 146097).toNat = inEra at *
  rw [show (inEra - inEra / 1460 + inEra / 36524 - inEra / 146096) / 365 =
    withoutLeapDays inEra / 365 from rfl]
  generalize withoutLeapDays inEra / 365 = year at *
  rw [show inEra - (365 * year + year / 4 - year / 100) = inEra - yearStart year from rfl]
  generalize inEra - yearStart year = inYear at *
  obtain ⟨hfirst, hlast, hpos, hdays⟩ := hmonth
  refine ⟨hfirst, hlast, hpos, fun hyear => ?_⟩
  obtain hdays | ⟨htwo, hday, hend⟩ := hdays
  · exact hdays.trans (daysIn_one_le ..)
  · rw [htwo, if_pos (Nat.le_refl 2)] at hyear ⊢
    rw [hday, daysIn, if_pos (hleap hend _ hyear)]

theorem valid_of_ofCount {count : Int} {micro : Nat} {t : Timestamp}
    (h : ofCount? count micro = some t) : t.Valid := by
  simp only [ofCount?] at h
  generalize (if count.natAbs ≤ secondsLimit then (count, micro)
    else (count / 1000, micro + (count % 1000).toNat * 1000)) = counted at h
  obtain ⟨seconds, micro⟩ := counted
  obtain ⟨hmonth, hlast, hpos, hdays⟩ := ofDay_bounds ((seconds + (micro / 1000000 : Nat)) / 86400)
  have hsecond : ((seconds + (micro / 1000000 : Nat)) % 86400).toNat < 86400 := by omega
  generalize ((seconds + (micro / 1000000 : Nat)) % 86400).toNat = second at *
  generalize ofDay ((seconds + (micro / 1000000 : Nat)) / 86400) = date at *
  obtain ⟨year, month, day⟩ := date
  split at h
  · next hyear =>
    cases h
    refine ⟨by dsimp only; omega, ⟨hmonth, hlast⟩, ⟨hpos, hdays hyear.1⟩, ?_, ?_, ?_, ?_, ?_⟩
    · dsimp only
      omega
    · dsimp only
      omega
    · dsimp only
      omega
    · dsimp only
      omega
    · simp
  · cases h

end Count

section Text

theorem number_lt {cs : List Char} {n : Nat} (h : number cs = some n) : n < 10 ^ cs.length := by
  unfold number at h
  split at h
  · obtain rfl := Option.some.inj h
    exact ofDigits_lt_of_length_le (Nat.le_refl _)
  · cases h

theorem micros_lt (cs : List Char) : micros cs < 1000000 := by
  have hlt := ofDigits_lt (cs.take 6)
  have hle : ((cs.take 6).filterMap asciiDigit?).length ≤ 6 :=
    (List.length_filterMap_le ..).trans (List.length_take_le ..)
  have hpow : 10 ^ ((cs.take 6).filterMap asciiDigit?).length *
      10 ^ (6 - ((cs.take 6).filterMap asciiDigit?).length) = 1000000 := by
    rw [← Nat.pow_add, Nat.add_sub_cancel' hle]
  simp only [micros]
  rw [← hpow]
  exact Nat.mul_lt_mul_of_pos_right hlt (Nat.pow_pos (by decide))

theorem bounds_of_date {cs rest : List Char} {year month day : Nat}
    (h : date? cs = some ((year, month, day), rest)) :
    year ≤ 9999 ∧ 1 ≤ month ∧ month ≤ 12 ∧ 1 ≤ day ∧ day ≤ daysIn year month := by
  unfold date? at h
  split at h
  · simp only [Option.bind_eq_bind, Option.bind_eq_some_iff] at h
    obtain ⟨y, hy, m, -, d, -, h⟩ := h
    have hyear : y < 10 ^ 4 := number_lt hy
    split at h
    · next hdate =>
      cases h
      exact ⟨by omega, hdate⟩
    · cases h
  · cases h

theorem bounds_of_seconds {cs rest : List Char} {second micro : Nat}
    (h : seconds? cs = some ((second, micro), rest)) : second ≤ 59 ∧ micro ≤ 999999 := by
  unfold seconds? at h
  split at h
  · simp only [Option.bind_eq_bind, Option.bind_eq_some_iff] at h
    obtain ⟨s, -, h⟩ := h
    split at h
    · cases h
    · next hs =>
      -- with or without a fraction
      have hfraction {ds tail : List Char} (h : (if ds.isEmpty then none
          else some ((s, micros ds), tail)) = some ((second, micro), rest)) :
          second ≤ 59 ∧ micro ≤ 999999 := by
        split at h
        · cases h
        · cases h
          exact ⟨Nat.not_lt.1 hs, Nat.le_of_lt_succ (micros_lt _)⟩
      split at h
      · exact hfraction h
      · exact hfraction h
      · cases h
        exact ⟨Nat.not_lt.1 hs, by decide⟩
  · cases h
  · cases h
    exact ⟨by decide, by decide⟩

theorem bound_of_offsetDigits {negative : Bool} {ds : List Char} {offset : Option Int}
    (h : offsetDigits? negative ds = some offset) : ∀ n ∈ offset, n.natAbs ≤ 23 * 60 + 59 := by
  have hfits {hours minutes : Nat} (h : (if 59 < minutes ∨ 23 < hours then none
      else some (some (if negative = true then -((hours : Int) * 60 + minutes)
        else (hours : Int) * 60 + minutes))) = some offset) :
      ∀ n ∈ offset, n.natAbs ≤ 23 * 60 + 59 := by
    split at h
    · cases h
    · cases h
      intro n hn
      obtain rfl := Option.mem_some_iff.1 hn
      split <;> omega
  simp only [offsetDigits?, Option.bind_eq_bind] at h
  split at h
  · simp only [Option.bind_eq_some_iff, Option.bind_some] at h
    obtain ⟨_, -, _, -, h⟩ := h
    exact hfits h
  · simp only [Option.bind_eq_some_iff, Option.bind_some] at h
    obtain ⟨_, -, _, -, h⟩ := h
    exact hfits h
  · cases h

theorem bound_of_offset {cs : List Char} {offset : Option Int} (h : offset? cs = some offset) :
    ∀ n ∈ offset, n.natAbs ≤ 23 * 60 + 59 := by
  unfold offset? at h
  split at h
  · cases h
    simp
  · cases h
    simp
  · cases h
    simp
  · exact bound_of_offsetDigits h
  · exact bound_of_offsetDigits h
  · exact bound_of_offsetDigits h
  · cases h

theorem valid_of_ofCalendar {s : String} {t : Timestamp} (h : ofCalendar? s = some t)
    (hyear : t.year ≠ 0) : t.Valid := by
  simp only [ofCalendar?, Option.bind_eq_bind, Option.bind_eq_some_iff] at h
  obtain ⟨⟨⟨year, month, day⟩, rest⟩, hdate, h⟩ := h
  obtain ⟨hmax, hmonth, hlast, hpos, hdays⟩ := bounds_of_date hdate
  split at h
  · cases h
    exact ⟨⟨Nat.pos_of_ne_zero hyear, hmax⟩, ⟨hmonth, hlast⟩, ⟨hpos, hdays⟩, by simp, by simp, by simp,
      by simp, by simp⟩
  · simp only [Option.bind_eq_some_iff] at h
    obtain ⟨hour, -, minute, -, h⟩ := h
    split at h
    · simp at h
    · next htime =>
      simp only [Option.bind_eq_some_iff] at h
      obtain ⟨⟨⟨second, micro⟩, rest⟩, hsecond, offset, hoffset, h⟩ := h
      obtain ⟨hsecond, hmicro⟩ := bounds_of_seconds hsecond
      cases h
      refine ⟨⟨Nat.pos_of_ne_zero hyear, hmax⟩, ⟨hmonth, hlast⟩, ⟨hpos, hdays⟩, ?_, ?_, hsecond,
        hmicro, bound_of_offset hoffset⟩
      · dsimp only
        omega
      · dsimp only
        omega
  · cases h

theorem valid_of_ofCountText {s : String} {t : Timestamp} (h : ofCountText? s = some t) :
    t.Valid := by
  simp only [ofCountText?, Option.bind_eq_bind] at h
  split at h
  · simp at h
  · split at h
    · exact valid_of_ofCount h
    · simp only [Option.bind_eq_some_iff] at h
      obtain ⟨_, -, _, -, h⟩ := h
      exact valid_of_ofCount h
    · cases h

theorem valid_of_ofText {s : String} {t : Timestamp} (h : ofText s = .ok t) : t.Valid := by
  unfold ofText at h
  split at h
  · next u hu =>
    split at h
    · cases h
    · next hyear =>
      obtain rfl := Except.ok.inj h
      cases hc : ofCalendar? s with
      | none => exact valid_of_ofCountText (by simpa [hc] using hu)
      | some u' =>
        obtain rfl : u' = u := by simpa [hc] using hu
        exact valid_of_ofCalendar hc hyear
  · cases h

end Text

theorem valid_of_ofJson {v : Json} {t : Timestamp} (h : ofJson v = .ok t) : t.Valid := by
  have hcount {o : Option Timestamp} (ho : ∀ u, o = some u → u.Valid)
      (h : o.elim (.error .datetimeParsing) Except.ok = Except.ok (ε := FieldErrorKind) t) :
      t.Valid := by
    cases o with
    | none => cases h
    | some u => exact Except.ok.inj h ▸ ho u rfl
  unfold ofJson at h
  split at h
  · exact valid_of_ofText h
  · cases h
  · split at h
    · exact hcount (fun _ => valid_of_ofCount) h
    · cases h
  · refine hcount (fun u hu => ?_) h
    simp only [ofNumber?, Option.bind_eq_bind, Option.bind_eq_some_iff] at hu
    obtain ⟨_, -, hu⟩ := hu
    exact valid_of_ofCount hu
  · cases h

end ClusterHealth.Report.Timestamp
