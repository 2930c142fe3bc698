import ClusterHealth.Duration
import ClusterHealth.Proofs.Number.DigitLaws
import ClusterHealth.Proofs.Number.Rounding
import ClusterHealth.Text.Basic

namespace ClusterHealth.Duration

structure Part where
  digits : List Char
  unit : Char
deriving DecidableEq

namespace Part

def chars (p : Part) : List Char := p.digits ++ [p.unit]

def number (p : Part) : Nat := Nat.ofDigitChars 10 p.digits 0

def seconds? (p : Part) : Option Nat :=
  match p.unit with
  | 'h' => some (p.number * 3600)
  | 'm' => some (p.number * 60)
  | 's' => some p.number
  | _ => none

def IsUnpadded (p : Part) : Prop := p.digits.head? = some '0' → p.digits = ['0']

def ofNumber (n : Nat) (unit : Char) : Part := ⟨Nat.toDigits 10 n, unit⟩

end Part

def partsFrom? (digits : List Char) : List Char → Option (List Part)
  | [] => if digits.isEmpty then some [] else none
  | c :: rest =>
    if c.isDigit then partsFrom? (digits ++ [c]) rest
    else if digits.isEmpty then none
    else (partsFrom? [] rest).map (⟨digits, c⟩ :: ·)

def total? : List Part → Option Nat
  | [] => some 0
  | p :: ps => do return (← p.seconds?) + (← total? ps)

structure Wording where
  negative : Bool
  parts : List Part
deriving DecidableEq

namespace Wording

def ofText? (text : String) : Option Wording :=
  match text.toList with
  | '-' :: cs => (partsFrom? [] cs).map (⟨true, ·⟩)
  | cs => (partsFrom? [] cs).map (⟨false, ·⟩)

def chars (w : Wording) : List Char := (if w.negative then ['-'] else []) ++ w.parts.flatMap Part.chars

def seconds? (w : Wording) : Option Int :=
  if w.parts.isEmpty then none
  else (total? w.parts).map fun n => if w.negative then -(n : Int) else n

/-- Every unit from the largest one down to seconds, in numbers without zeros in front and none of which
makes up a larger unit. Only zero seconds start with a zero, and have no sign. -/
structure IsCanonical (w : Wording) : Prop where
  units : w.parts.map Part.unit <:+ ['h', 'm', 's']
  unpadded : ∀ p ∈ w.parts, p.IsUnpadded
  carried : ∀ p ∈ w.parts, p.unit ≠ 'h' → p.number < 60
  leading : (∀ p ∈ w.parts.head?, p.number ≠ 0) ∨ w = ⟨false, [⟨['0'], 's'⟩]⟩

end Wording

def Spells (text : String) (seconds : Int) : Prop :=
  ∃ w, Wording.ofText? text = some w ∧ w.seconds? = some seconds ∧ w.IsCanonical

section Reading

variable {p : Part} {ps : List Part} {ds cs : List Char} {w : Wording} {text : String}

structure Part.IsWritten (p : Part) : Prop where
  digits : ∀ c ∈ p.digits, c.isDigit = true
  nonempty : p.digits ≠ []
  unit : p.unit.isDigit = false

theorem flatMap_of_partsFrom? (h : partsFrom? ds cs = some ps) (hds : ∀ c ∈ ds, c.isDigit = true) :
    ds ++ cs = ps.flatMap Part.chars ∧ ∀ p ∈ ps, p.IsWritten := by
  induction cs generalizing ds ps with
  | nil =>
    rw [partsFrom?] at h
    split at h
    · next hempty =>
      obtain rfl := Option.some.inj h
      exact ⟨by simpa using hempty, nofun⟩
    · cases h
  | cons c cs ih =>
    rw [partsFrom?] at h
    split at h
    · next hc =>
      rw [List.append_cons]
      exact ih h (List.forall_mem_append.2 ⟨hds, by simpa using hc⟩)
    split at h
    · cases h
    · next hc hempty =>
      obtain ⟨ps, hps, rfl⟩ := Option.map_eq_some_iff.1 h
      obtain ⟨hcs, hwritten⟩ := ih hps nofun
      refine ⟨by simp [Part.chars, ← hcs], List.forall_mem_cons.2 ⟨⟨hds, ?_, ?_⟩, hwritten⟩⟩
      · simpa using hempty
      · simpa using hc

theorem partsFrom?_digits (h : ∀ c ∈ cs, c.isDigit = true) (rest : List Char) :
    partsFrom? ds (cs ++ rest) = partsFrom? (ds ++ cs) rest := by
  induction cs generalizing ds with
  | nil => simp
  | cons c cs ih =>
    obtain ⟨hc, hcs⟩ := List.forall_mem_cons.1 h
    rw [List.cons_append, partsFrom?, if_pos hc, ih hcs, List.append_assoc, List.singleton_append]

theorem partsFrom?_flatMap (h : ∀ p ∈ ps, p.IsWritten) :
    partsFrom? [] (ps.flatMap Part.chars) = some ps := by
  induction ps with
  | nil => rfl
  | cons p ps ih =>
    obtain ⟨hp, hps⟩ := List.forall_mem_cons.1 h
    rw [List.flatMap_cons, Part.chars, List.append_assoc, partsFrom?_digits hp.digits, List.nil_append,
      List.singleton_append, partsFrom?, if_neg (by simp [hp.unit]), if_neg (by simp [hp.nonempty]),
      ih hps]
    rfl

theorem isDigit_of_head_flatMap (h : ∀ p ∈ ps, p.IsWritten) :
    ∀ c ∈ (ps.flatMap Part.chars).head?, c.isDigit = true := by
  cases ps with
  | nil => nofun
  | cons p ps =>
    have hp := h p List.mem_cons_self
    obtain ⟨d, ds, hds⟩ := List.exists_cons_of_ne_nil hp.nonempty
    intro c hc
    obtain rfl : d = c := by simpa [Part.chars, hds] using hc
    exact hp.digits d (hds ▸ List.mem_cons_self)

theorem Wording.ofText?_eq_some_iff :
    ofText? text = some w ↔ text.toList = w.chars ∧ ∀ p ∈ w.parts, p.IsWritten := by
  obtain ⟨negative, ps⟩ := w
  rw [ofText?]
  split
  · next cs htext =>
    rw [htext, Option.map_eq_some_iff]
    constructor
    · rintro ⟨_, hps, heq⟩
      obtain ⟨rfl, rfl⟩ := Wording.mk.inj heq
      obtain ⟨hcs, hwritten⟩ := flatMap_of_partsFrom? hps nofun
      exact ⟨by simp [chars, ← hcs], hwritten⟩
    · rintro ⟨hchars, hwritten⟩
      cases negative with
      | true =>
        obtain rfl : cs = ps.flatMap Part.chars := by simpa [chars] using hchars
        exact ⟨ps, partsFrom?_flatMap hwritten, rfl⟩
      | false =>
        have hminus := isDigit_of_head_flatMap hwritten '-' (by simp [chars] at hchars; simp [← hchars])
        cases hminus
  · next hno =>
    rw [Option.map_eq_some_iff]
    constructor
    · rintro ⟨_, hps, heq⟩
      obtain ⟨rfl, rfl⟩ := Wording.mk.inj heq
      exact flatMap_of_partsFrom? hps nofun
    · rintro ⟨hchars, hwritten⟩
      cases negative with
      | true => exact absurd hchars (hno _)
      | false => exact ⟨ps, by rw [hchars]; exact partsFrom?_flatMap hwritten, rfl⟩

end Reading

section Writing

variable {n : Nat} {p : Part} {ps : List Part} {unit : Char}

namespace Part

@[simp] theorem number_ofNumber (n : Nat) (unit : Char) : (ofNumber n unit).number = n :=
  Nat.ofDigitChars_ten_toDigits

@[simp] theorem unit_ofNumber (n : Nat) (unit : Char) : (ofNumber n unit).unit = unit := rfl

@[simp] theorem isUnpadded_ofNumber (n : Nat) (unit : Char) : (ofNumber n unit).IsUnpadded := by
  intro h
  by_cases hn : n = 0
  · subst hn
    rfl
  · obtain ⟨c, ds, hds, hc⟩ := Numeral.exists_toDigits_eq_cons hn
    rw [ofNumber, hds] at h
    exact absurd (Option.some.inj h) hc

theorem isWritten_ofNumber (n : Nat) (h : unit.isDigit = false) : (ofNumber n unit).IsWritten :=
  ⟨fun _ => Numeral.isDigit_of_mem_toDigits, Nat.toDigits_ne_nil, h⟩

theorem eq_ofNumber (h : p.IsWritten) (hunpadded : p.IsUnpadded) : p = ofNumber p.number p.unit := by
  rw [ofNumber, number, Numeral.toDigits_ofDigitChars h.digits h.nonempty hunpadded]

end Part

/-- A number of seconds in units, each of which is carried into the next larger one. -/
inductive Carried : Nat → List Part → Prop
  | hours {h m s : Nat} : h ≠ 0 → m < 60 → s < 60 →
      Carried (h * 3600 + (m * 60 + s)) [.ofNumber h 'h', .ofNumber m 'm', .ofNumber s 's']
  | minutes {m s : Nat} : m ≠ 0 → m < 60 → s < 60 →
      Carried (m * 60 + s) [.ofNumber m 'm', .ofNumber s 's']
  | seconds {s : Nat} : s < 60 → Carried s [.ofNumber s 's']

theorem Carried.toList_formatSeconds (h : Carried n ps) :
    (formatSeconds n).toList = ps.flatMap Part.chars := by
  have hletter (s : String) : toString s = s := rfl
  cases h with
  | @hours h m s hh hm hs =>
    generalize hn : h * 3600 + (m * 60 + s) = n
    have hhours : n / 3600 = h := by omega
    have hminutes : n % 3600 / 60 = m := by omega
    have hrest : n % 60 = s := by omega
    simp [formatSeconds, hhours, hminutes, hrest, hh, Part.chars, Part.ofNumber, hletter]
  | @minutes m s hpos hm hs =>
    generalize hn : m * 60 + s = n
    have hhours : n / 3600 = 0 := by omega
    have hminutes : n % 3600 / 60 = m := by omega
    have hrest : n % 60 = s := by omega
    simp [formatSeconds, hhours, hminutes, hrest, hpos, Part.chars, Part.ofNumber, hletter]
  | seconds hs =>
    have hhours : n / 3600 = 0 := by omega
    have hminutes : n % 3600 / 60 = 0 := by omega
    have hrest : n % 60 = n := by omega
    simp [formatSeconds, hhours, hminutes, hrest, Part.chars, Part.ofNumber, hletter]

theorem Carried.ne_nil (h : Carried n ps) : ps ≠ [] := by
  cases h <;> exact List.cons_ne_nil _ _

theorem exists_carried (n : Nat) : ∃ ps, Carried n ps := by
  by_cases hhours : n / 3600 = 0
  · by_cases hminutes : n / 60 = 0
    · exact ⟨_, .seconds (by omega)⟩
    · have hcarried := Carried.minutes (s := n % 60) hminutes (by omega) (by omega)
      have hn : n / 60 * 60 + n % 60 = n := by omega
      exact ⟨_, hn ▸ hcarried⟩
  · have hcarried := Carried.hours (m := n % 3600 / 60) (s := n % 60) hhours (by omega) (by omega)
    have hn : n / 3600 * 3600 + (n % 3600 / 60 * 60 + n % 60) = n := by omega
    exact ⟨_, hn ▸ hcarried⟩

theorem Carried.isWritten (h : Carried n ps) : ∀ p ∈ ps, p.IsWritten := by
  cases h <;> simp [Part.isWritten_ofNumber, Char.isDigit]

theorem Carried.total?_eq (h : Carried n ps) : total? ps = some n := by
  cases h <;> simp [total?, Part.seconds?]

theorem Carried.isCanonical {negative : Bool} (h : Carried n ps) (hsign : negative = true → n ≠ 0) :
    (⟨negative, ps⟩ : Wording).IsCanonical := by
  cases h with
  | hours hh hm hs =>
    exact ⟨List.suffix_rfl, by simp, by simp [hm, hs], .inl (by simpa using hh)⟩
  | minutes hpos hm hs =>
    exact ⟨List.suffix_cons .., by simp, by simp [hm, hs], .inl (by simpa using hpos)⟩
  | seconds hs =>
    refine ⟨⟨['h', 'm'], rfl⟩, by simp, by simp [hs], ?_⟩
    by_cases hn : n = 0
    · subst hn
      obtain rfl : negative = false := by simpa using hsign
      exact .inr rfl
    · exact .inl (by simpa using hn)

theorem exists_carried_of_isCanonical {w : Wording} (hwritten : ∀ p ∈ w.parts, p.IsWritten)
    (hne : w.parts ≠ []) (h : w.IsCanonical) :
    ∃ n, Carried n w.parts ∧ (w.negative = true → n ≠ 0) := by
  obtain ⟨negative, ps⟩ := w
  obtain ⟨hunits, hunpadded, hcarried, hleading⟩ := h
  have hshort (p : Part) (hp : p ∈ ps) : ∃ n unit, p = .ofNumber n unit :=
    ⟨_, _, Part.eq_ofNumber (hwritten p hp) (hunpadded p hp)⟩
  -- the units are one of the three ends of hours, minutes, seconds that have seconds in them
  simp only [List.suffix_cons_iff, List.suffix_nil, List.map_eq_cons_iff, List.map_eq_nil_iff] at hunits
  obtain ⟨p, _, rfl, hp, q, _, rfl, hq, r, _, rfl, hr, rfl⟩ | ⟨q, _, rfl, hq, r, _, rfl, hr, rfl⟩ |
    ⟨r, _, rfl, hr, rfl⟩ | rfl := hunits
  · obtain ⟨h, _, rfl⟩ := hshort p (by simp)
    obtain ⟨m, _, rfl⟩ := hshort q (by simp)
    obtain ⟨s, _, rfl⟩ := hshort r (by simp)
    subst hp hq hr
    have hh : h ≠ 0 := by simpa using hleading
    obtain ⟨hm, hs⟩ : m < 60 ∧ s < 60 := by simpa using hcarried
    exact ⟨_, .hours hh hm hs, fun _ => by omega⟩
  · obtain ⟨m, _, rfl⟩ := hshort q (by simp)
    obtain ⟨s, _, rfl⟩ := hshort r (by simp)
    subst hq hr
    have hpos : m ≠ 0 := by simpa using hleading
    obtain ⟨hm, hs⟩ : m < 60 ∧ s < 60 := by simpa using hcarried
    exact ⟨_, .minutes hpos hm hs, fun _ => by omega⟩
  · obtain ⟨s, _, rfl⟩ := hshort r (by simp)
    subst hr
    have hs : s < 60 := by simpa using hcarried
    refine ⟨s, .seconds hs, fun hnegative => ?_⟩
    subst hnegative
    simpa using hleading
  · contradiction

end Writing

section Spelling

variable {text : String} {s s' : Int}

theorem Spells.unique (h : Spells text s) (h' : Spells text s') : s = s' := by
  obtain ⟨w, hw, hs, -⟩ := h
  obtain ⟨w', hw', hs', -⟩ := h'
  obtain rfl : w = w' := Option.some.inj (hw.symm.trans hw')
  exact Option.some.inj (hs.symm.trans hs')

theorem spells_iff :
    Spells text s ↔ text.toList = (if s < 0 then ['-'] else []) ++ (formatSeconds s.natAbs).toList := by
  constructor
  · rintro ⟨⟨negative, ps⟩, hw, hs, hcanonical⟩
    obtain ⟨htext, hwritten⟩ := Wording.ofText?_eq_some_iff.1 hw
    have hne : ps ≠ [] := by
      rintro rfl
      cases hs
    obtain ⟨n, hn, hsign⟩ := exists_carried_of_isCanonical hwritten hne hcanonical
    have hs : (if negative then -(n : Int) else n) = s := by
      simpa [Wording.seconds?, hne, hn.total?_eq] using hs
    have hnatAbs : s.natAbs = n := by
      rw [← hs]
      split <;> omega
    have hnegative : negative = true ↔ s < 0 := by
      rw [← hs]
      split
      · next h =>
        have := hsign h
        exact iff_of_true h (by omega)
      · next h => exact iff_of_false h (by omega)
    simp only [htext, Wording.chars, hnegative, hnatAbs, hn.toList_formatSeconds]
  · intro htext
    obtain ⟨ps, hps⟩ := exists_carried s.natAbs
    rw [hps.toList_formatSeconds] at htext
    refine ⟨⟨decide (s < 0), ps⟩, Wording.ofText?_eq_some_iff.2 ⟨?_, hps.isWritten⟩, ?_,
      hps.isCanonical fun hneg => ?_⟩
    · simpa [Wording.chars] using htext
    · have hsign : (if s < 0 then -(s.natAbs : Int) else s.natAbs) = s := by omega
      simpa [Wording.seconds?, hps.ne_nil, hps.total?_eq] using hsign
    · have := of_decide_eq_true hneg
      omega

end Spelling

section Durations

variable {d e : Duration} {text : String}

theorem spells_iff_eq_format : Spells text d.seconds ↔ text = d.format := by
  have hminus : (if d.seconds < 0 then "-" else "").toList = if d.seconds < 0 then ['-'] else [] := by
    split <;> rfl
  rw [spells_iff, ← String.toList_inj, format, String.toList_append, hminus]

theorem format_eq_format_iff : d.format = e.format ↔ d.seconds = e.seconds := by
  constructor
  · intro h
    exact (spells_iff_eq_format.2 rfl).unique (spells_iff_eq_format.2 h)
  · intro h
    rw [format, format, h]

@[simp] theorem seconds_truncate (d : Duration) : d.truncate.seconds = d.seconds :=
  Int.mul_tdiv_cancel _ (by decide)

theorem ofMicros_seconds (d : Duration) : ofMicros (d.seconds * microsPerSecond) = .ok d.truncate :=
  dif_pos ⟨d.truncate.lower, d.truncate.upper⟩

theorem truncate?_toSeconds_truncate (d : Duration) : d.truncate.toSeconds.truncate? = some d.seconds := by
  have hbound : d.seconds.natAbs < 2 ^ 53 := by
    have hlower : -(dayLimit * microsPerDay : Int) ≤ d.seconds * microsPerSecond := d.truncate.lower
    have hupper : d.seconds * microsPerSecond < (dayLimit + 1) * microsPerDay := d.truncate.upper
    simp only [microsPerSecond, dayLimit, microsPerDay] at hlower hupper
    omega
  have hexact : d.truncate.toSeconds = .ofInt d.seconds :=
    calc
      d.truncate.toSeconds = .ofIntRatio (d.seconds * microsPerSecond) (1 * microsPerSecond) := by
        rw [Nat.one_mul]
        rfl
      _ = .ofInt d.seconds := Binary64.ofIntRatio_mul _ Nat.one_pos (by decide)
  rw [hexact, Binary64.truncate?_ofInt hbound]

theorem seconds_of_neg (h : e.micros = -d.micros) : e.seconds = -d.seconds := by
  rw [seconds, h, Int.neg_tdiv]
  rfl

theorem format_of_neg (hpos : 1000000 ≤ d.micros) (h : e.micros = -d.micros) :
    e.format = "-" ++ d.format := by
  have hone : 1 ≤ d.seconds := by
    rw [seconds, Int.tdiv_eq_ediv_of_nonneg (by omega)]
    exact Int.le_ediv_of_mul_le (by decide) hpos
  rw [format, format, seconds_of_neg h, if_pos (by omega), if_neg (by omega), Int.natAbs_neg,
    String.empty_append]

theorem format_is_canonical (d : Duration) :
    (ofMicros (d.seconds * microsPerSecond) = .ok d.truncate ∧
      d.truncate.toSeconds.truncate? = some d.seconds) ∧
    (∀ text, Spells text d.seconds ↔ text = d.format) ∧
    d.truncate.format = d.format ∧
    (∀ e : Duration, 1000000 ≤ d.micros → e.micros = -d.micros → e.format = "-" ++ d.format) ∧
    ∀ e : Duration, d.format = e.format ↔ d.seconds = e.seconds := by
  refine ⟨⟨ofMicros_seconds d, truncate?_toSeconds_truncate d⟩, fun _ => spells_iff_eq_format, ?_,
    fun _ => format_of_neg, fun _ => format_eq_format_iff⟩
  rw [format_eq_format_iff, seconds_truncate]

theorem format_is_canonical_belowZero : ∃ d e : Duration, d.micros = 90061700000 ∧
    1000000 ≤ d.micros ∧ e.micros = -d.micros ∧ e.format = "-" ++ d.format ∧ d.format = "25h1m1s" := by
  refine ⟨⟨90061700000, by decide, by decide⟩, ⟨-90061700000, by decide, by decide⟩, rfl, by decide, rfl,
    ?_, by decide +kernel⟩
  exact (format_is_canonical _).2.2.2.1 _ (by decide) rfl

end Durations

end ClusterHealth.Duration
