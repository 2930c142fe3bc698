import ClusterHealth.Number.Binary64

namespace ClusterHealth

namespace Duration

def microsPerSecond : Nat := 1000000

def microsPerDay : Nat := 86400 * microsPerSecond

def dayLimit : Nat := 999999999

end Duration

structure Duration where
  micros : Int
  lower : -(Duration.dayLimit * Duration.microsPerDay : Int) ≤ micros
  upper : micros < (Duration.dayLimit + 1) * Duration.microsPerDay
deriving DecidableEq

namespace Duration

inductive Error
  | days (n : Int)
  | daysTooLarge
  | infinite
  | notANumber
deriving DecidableEq

def Error.message : Error → String
  | .days n => s!"days={n}; must have magnitude <= {dayLimit}"
  | .daysTooLarge => "Python int too large to convert to C int"
  | .infinite => "cannot convert float infinity to integer"
  | .notANumber => "cannot convert float NaN to integer"

/-- Days that do not fit in 32 bits have no place in the message. -/
def ofMicros (n : Int) : Except Error Duration :=
  if h : -(dayLimit * microsPerDay : Int) ≤ n ∧ n < (dayLimit + 1) * microsPerDay then
    .ok ⟨n, h.1, h.2⟩
  else
    let days := n / microsPerDay
    if -2147483648 ≤ days ∧ days < 2147483648 then .error (.days days) else .error .daysTooLarge

def nearestEven (n : Int) (d : Nat) : Int :=
  let q := n / d
  let r := n % d
  if 2 * r < d ∨ (2 * r = d ∧ q % 2 = 0) then q else q + 1

/-- Whole seconds are exact; the rest is multiplied by a million and rounded before its fraction is. -/
def ofSeconds (x : Binary64) : Except Error Duration :=
  match x.truncate? with
  | none => .error (if x.isNaN then .notANumber else .infinite)
  | some whole =>
    let rest := (x - .ofInt whole) * 1000000
    match rest.toRatio? with
    | none => .error .infinite
    | some (n, d) => ofMicros (nearestEven (whole * microsPerSecond * d + n) d)

def seconds (d : Duration) : Int := d.micros.tdiv microsPerSecond

def toSeconds (d : Duration) : Binary64 := .ofIntRatio d.micros microsPerSecond

theorem seconds_mul_bounds (n : Int) :
    (0 ≤ n → 0 ≤ n.tdiv 1000000 * 1000000 ∧ n.tdiv 1000000 * 1000000 ≤ n) ∧
    (n ≤ 0 → n ≤ n.tdiv 1000000 * 1000000 ∧ n.tdiv 1000000 * 1000000 ≤ 0) := by
  constructor
  · intro h
    rw [Int.tdiv_eq_ediv_of_nonneg h]
    omega
  · intro h
    obtain ⟨m, hm⟩ : ∃ m : Int, n = -m := ⟨-n, by omega⟩
    subst hm
    rw [Int.neg_tdiv, Int.tdiv_eq_ediv_of_nonneg (by omega)]
    omega

def truncate (d : Duration) : Duration where
  micros := d.seconds * microsPerSecond
  lower := by
    have h := seconds_mul_bounds d.micros
    have hl := d.lower
    have hs : d.seconds = d.micros.tdiv 1000000 := rfl
    rw [← hs] at h
    simp only [microsPerSecond, dayLimit, microsPerDay] at *
    omega
  upper := by
    have h := seconds_mul_bounds d.micros
    have hu := d.upper
    have hs : d.seconds = d.micros.tdiv 1000000 := rfl
    rw [← hs] at h
    simp only [microsPerSecond, dayLimit, microsPerDay] at *
    omega

def formatSeconds (n : Nat) : String :=
  let hours := n / 3600
  let minutes := n % 3600 / 60
  let rest := n % 60
  if hours ≠ 0 then s!"{hours}h{minutes}m{rest}s"
  else if minutes ≠ 0 then s!"{minutes}m{rest}s"
  else s!"{rest}s"

def format (d : Duration) : String :=
  (if d.seconds < 0 then "-" else "") ++ formatSeconds d.seconds.natAbs

end Duration

end ClusterHealth
