import ClusterHealth.Number.Binary64
import Mathlib.Algebra.Group.Nat.Defs
import Mathlib.Order.Nat

namespace ClusterHealth.Binary64

/-- The least scale is the power of two of this, negated. -/
@[irreducible]
def leastScale : Nat := 1074

theorem leastScale_eq : leastScale = 1074 := by
  rw [leastScale]

theorem roundDiv_mul {n d c : Nat} (hc : 0 < c) : roundDiv (n * c) (d * c) = roundDiv n d := by
  have htwice : 2 * (n % d * c) = 2 * (n % d) * c := (Nat.mul_assoc ..).symm
  simp only [roundDiv, Nat.mul_div_mul_right _ _ hc, Nat.mul_mod_mul_right, htwice,
    Nat.mul_lt_mul_right hc, Nat.mul_left_inj hc.ne']

theorem roundDiv_mul_self {m d : Nat} (hd : 0 < d) : roundDiv (m * d) d = m := by
  simp [roundDiv, Nat.mul_div_cancel _ hd, hd]

theorem roundDiv_eq_zero {n d : Nat} (h : 2 * n < d) : roundDiv n d = 0 := by
  have hlt : n < d := by omega
  simp [roundDiv, Nat.div_eq_of_lt hlt, Nat.mod_eq_of_lt hlt, h]

/-- The quotient `n / d` is measured on the `p`th scale, under which it has 53 binary digits, or fewer
if that is the least scale. -/
structure OnScale (n d p : Nat) : Prop where
  below : n * 2 ^ leastScale < d * 2 ^ (p + 53)
  reached : p = 0 ∨ d * 2 ^ (p + 52) ≤ n * 2 ^ leastScale

theorem OnScale.le {n d p q : Nat} (hp : OnScale n d p) (hq : OnScale n d q) : q ≤ p := by
  obtain rfl | hreached := hq.reached
  · exact Nat.zero_le p
  · have hpow : 2 ^ (q + 52) < 2 ^ (p + 53) :=
      Nat.lt_of_mul_lt_mul_left (hreached.trans_lt hp.below)
    have := (Nat.pow_lt_pow_iff_right (by decide)).1 hpow
    omega

theorem OnScale.unique {n d p q : Nat} (hp : OnScale n d p) (hq : OnScale n d q) : p = q :=
  Nat.le_antisymm (hq.le hp) (hp.le hq)

theorem OnScale.mul {n d p c : Nat} (h : OnScale n d p) (hc : 0 < c) : OnScale (n * c) (d * c) p := by
  refine ⟨?_, h.reached.imp_right fun hreached => ?_⟩
  · rw [Nat.mul_right_comm n, Nat.mul_right_comm d]
    exact Nat.mul_lt_mul_of_pos_right h.below hc
  · rw [Nat.mul_right_comm n, Nat.mul_right_comm d]
    exact Nat.mul_le_mul_right c hreached

theorem exists_powers_around {n d : Nat} (hn : 0 < n) (hd : 0 < d) :
    ∃ a b : Nat, scaleOf n d = max (-1074) ((a : Int) - b - 52) ∧
      d * 2 ^ a ≤ n * 2 ^ b ∧ n * 2 ^ b < d * 2 ^ (a + 1) := by
  have hn1 := Nat.log2_self_le hn.ne'
  have hn2 := Nat.lt_log2_self (n := n)
  have hd1 := Nat.log2_self_le hd.ne'
  have hd2 := Nat.lt_log2_self (n := d)
  generalize hln : n.log2 = ln at *
  generalize hld : d.log2 = ld at *
  have hreached : (if 0 ≤ (ln : Int) - ld then d * Nat.pow 2 ((ln : Int) - ld).toNat ≤ n
      else d ≤ n * Nat.pow 2 (-((ln : Int) - ld)).toNat) ↔ d * 2 ^ ln ≤ n * 2 ^ ld := by
    simp only [Nat.pow_eq]
    split
    · have hsum : ln = ((ln : Int) - ld).toNat + ld := by omega
      generalize ((ln : Int) - ld).toNat = k at *
      rw [hsum, Nat.pow_add, ← Nat.mul_assoc, Nat.mul_le_mul_right_iff (Nat.two_pow_pos _)]
    · have hsum : ld = (-((ln : Int) - ld)).toNat + ln := by omega
      generalize (-((ln : Int) - ld)).toNat = k at *
      rw [hsum, Nat.pow_add, ← Nat.mul_assoc, Nat.mul_le_mul_right_iff (Nat.two_pow_pos _)]
  -- the difference of the logarithms is that of the quotient or one more
  by_cases h : d * 2 ^ ln ≤ n * 2 ^ ld
  · refine ⟨ln, ld, ?_, h, ?_⟩
    · rw [scaleOf, hln, hld, if_pos (hreached.2 h)]
    · calc n * 2 ^ ld < 2 ^ (ln + 1) * 2 ^ ld := Nat.mul_lt_mul_of_pos_right hn2 (Nat.two_pow_pos _)
        _ ≤ 2 ^ (ln + 1) * d := Nat.mul_le_mul_left _ hd1
        _ = d * 2 ^ (ln + 1) := Nat.mul_comm ..
  · refine ⟨ln, ld + 1, ?_, ?_, ?_⟩
    · rw [scaleOf, hln, hld, if_neg (mt hreached.1 h)]
      omega
    · calc d * 2 ^ ln ≤ 2 ^ (ld + 1) * 2 ^ ln := Nat.mul_le_mul_right _ hd2.le
        _ ≤ 2 ^ (ld + 1) * n := Nat.mul_le_mul_left _ hn1
        _ = n * 2 ^ (ld + 1) := Nat.mul_comm ..
    · rw [Nat.pow_succ, Nat.pow_succ, ← Nat.mul_assoc, ← Nat.mul_assoc]
      omega

theorem onScale_scaleOf {n d : Nat} (hn : 0 < n) (hd : 0 < d) :
    OnScale n d (scaleOf n d + leastScale).toNat := by
  obtain ⟨a, b, hscale, hle, hlt⟩ := exists_powers_around hn hd
  have hleast : (leastScale : Int) = 1074 := congrArg _ leastScale_eq
  generalize hp : (scaleOf n d + leastScale).toNat = p
  constructor
  · refine Nat.lt_of_mul_lt_mul_right (a := 2 ^ b) ?_
    calc n * 2 ^ leastScale * 2 ^ b = n * 2 ^ b * 2 ^ leastScale := Nat.mul_right_comm ..
      _ < d * 2 ^ (a + 1) * 2 ^ leastScale := Nat.mul_lt_mul_of_pos_right hlt (Nat.two_pow_pos _)
      _ = d * 2 ^ (a + 1 + leastScale) := by rw [Nat.mul_assoc, ← Nat.pow_add]
      _ ≤ d * 2 ^ (p + 53 + b) :=
        Nat.mul_le_mul_left d (Nat.pow_le_pow_right (by decide) (by omega))
      _ = d * 2 ^ (p + 53) * 2 ^ b := by rw [Nat.mul_assoc, ← Nat.pow_add]
  · refine or_iff_not_imp_left.2 fun hpos => ?_
    refine Nat.le_of_mul_le_mul_right (c := 2 ^ b) ?_ (Nat.two_pow_pos b)
    have hsum : p + 52 + b = a + leastScale := by omega
    calc d * 2 ^ (p + 52) * 2 ^ b = d * 2 ^ (p + 52 + b) := by rw [Nat.mul_assoc, ← Nat.pow_add]
      _ = d * 2 ^ a * 2 ^ leastScale := by rw [hsum, Nat.mul_assoc, ← Nat.pow_add]
      _ ≤ n * 2 ^ b * 2 ^ leastScale := Nat.mul_le_mul_right _ hle
      _ = n * 2 ^ leastScale * 2 ^ b := Nat.mul_right_comm ..

theorem rankOf_eq {n d p : Nat} (hn : 0 < n) (hd : 0 < d) (h : OnScale n d p) :
    rankOf n d = p * binade + roundDiv (n * 2 ^ leastScale) (d * 2 ^ p) := by
  have hp := (onScale_scaleOf hn hd).unique h
  have hbound : -1074 ≤ scaleOf n d := Int.le_max_left ..
  have hleast : (leastScale : Int) = 1074 := congrArg _ leastScale_eq
  rw [rankOf, if_neg hn.ne']
  generalize scaleOf n d = e at *
  dsimp only
  rw [← hleast, hp, Nat.pow_eq, Nat.pow_eq]
  congr 1
  split
  · have hsum : p = e.toNat + leastScale := by omega
    rw [hsum, Nat.pow_add, ← Nat.mul_assoc, roundDiv_mul (Nat.two_pow_pos _)]
  · have hsum : leastScale = (-e).toNat + p := by omega
    rw [hsum, Nat.pow_add, ← Nat.mul_assoc, roundDiv_mul (Nat.two_pow_pos _)]

theorem rankOf_mul {n d c : Nat} (hd : 0 < d) (hc : 0 < c) : rankOf (n * c) (d * c) = rankOf n d := by
  obtain rfl | hn := n.eq_zero_or_pos
  · simp [rankOf]
  · have h := onScale_scaleOf hn hd
    rw [rankOf_eq hn hd h, rankOf_eq (Nat.mul_pos hn hc) (Nat.mul_pos hd hc) (h.mul hc),
      Nat.mul_right_comm n, Nat.mul_right_comm d, roundDiv_mul hc]

theorem rankOf_of_exact {n d p m : Nat} (hd : 0 < d) (hm : 0 < m) (hlt : m < 2 ^ 53)
    (hreached : p = 0 ∨ 2 ^ 52 ≤ m) (h : n * 2 ^ leastScale = m * (d * 2 ^ p)) :
    rankOf n d = p * binade + m := by
  have hpos : 0 < d * 2 ^ p := Nat.mul_pos hd (Nat.two_pow_pos p)
  have hn : 0 < n := by
    by_contra hzero
    obtain rfl : n = 0 := by omega
    have := Nat.mul_pos hm hpos
    omega
  have hscale : OnScale n d p := by
    constructor
    · calc n * 2 ^ leastScale = d * 2 ^ p * m := h.trans (Nat.mul_comm ..)
        _ < d * 2 ^ p * 2 ^ 53 := Nat.mul_lt_mul_of_pos_left hlt hpos
        _ = d * 2 ^ (p + 53) := by rw [Nat.mul_assoc, ← Nat.pow_add]
    · refine hreached.imp_right fun hle => ?_
      calc d * 2 ^ (p + 52) = d * 2 ^ p * 2 ^ 52 := by rw [Nat.mul_assoc, ← Nat.pow_add]
        _ ≤ d * 2 ^ p * m := Nat.mul_le_mul_left _ hle
        _ = n * 2 ^ leastScale := (Nat.mul_comm ..).trans h.symm
  rw [rankOf_eq hn hd hscale, h, roundDiv_mul_self hpos]

theorem significand_bounds (rank : Nat) :
    significand rank < 2 ^ 53 ∧ (rank / binade - 1 = 0 ∨ 2 ^ 52 ≤ significand rank) := by
  unfold significand binade
  split <;> omega

theorem rank_eq (rank : Nat) : (rank / binade - 1) * binade + significand rank = rank := by
  unfold significand binade
  split <;> omega

theorem ratio_pos (rank : Nat) : 0 < (ratio rank).2 := by
  unfold ratio
  dsimp only
  split
  · exact Nat.one_pos
  · exact Nat.two_pow_pos _

theorem ratio_eq (rank : Nat) : (ratio rank).1 * 2 ^ leastScale =
    significand rank * ((ratio rank).2 * 2 ^ (rank / binade - 1)) := by
  have hleast : (leastScale : Int) = 1074 := congrArg _ leastScale_eq
  have hscale : scale rank = (rank / binade - 1 : Nat) - (leastScale : Int) := by
    rw [scale, hleast]
    omega
  unfold ratio
  dsimp only
  generalize rank / binade - 1 = p at *
  generalize scale rank = e at *
  rw [Nat.pow_eq, Nat.pow_eq]
  split
  · have hsum : p = e.toNat + leastScale := by omega
    rw [hsum, Nat.pow_add, Nat.one_mul, Nat.mul_assoc]
  · have hsum : leastScale = (-e).toNat + p := by omega
    rw [hsum, Nat.pow_add]

theorem rankOf_ratio (rank : Nat) : rankOf (ratio rank).1 (ratio rank).2 = rank := by
  obtain rfl | hrank := rank.eq_zero_or_pos
  · decide
  · have hpos : 0 < significand rank := by
      unfold significand binade
      split <;> omega
    obtain ⟨hlt, hreached⟩ := significand_bounds rank
    rw [rankOf_of_exact (ratio_pos rank) hpos hlt hreached (ratio_eq rank), rank_eq]

section Decimal

theorem rankOf_mul_pow (n a b k : Nat) :
    rankOf (n * 10 ^ (a + k)) (10 ^ (b + k)) = rankOf (n * 10 ^ a) (10 ^ b) := by
  rw [Nat.pow_add, Nat.pow_add, ← Nat.mul_assoc,
    rankOf_mul (Nat.pow_pos (by decide)) (Nat.pow_pos (by decide))]

theorem two_pow_le_ten_pow {k : Nat} : 2 ^ (3 * k) ≤ 10 ^ k := by
  rw [Nat.pow_mul]
  exact Nat.pow_le_pow_left (by decide) k

theorem infinityRank_le_rankOf {n : Nat} (h : 2 ^ leastScale ≤ n) : infinityRank ≤ rankOf n 1 := by
  have hn : 0 < n := (Nat.two_pow_pos _).trans_le h
  have hscale := onScale_scaleOf hn Nat.one_pos
  rw [rankOf_eq hn Nat.one_pos hscale]
  generalize (scaleOf n 1 + leastScale).toNat = p at *
  have hpow : 2 ^ (leastScale + leastScale) < 2 ^ (p + 53) :=
    calc 2 ^ (leastScale + leastScale) = 2 ^ leastScale * 2 ^ leastScale := Nat.pow_add ..
      _ ≤ n * 2 ^ leastScale := Nat.mul_le_mul_right _ h
      _ < 1 * 2 ^ (p + 53) := hscale.below
      _ = 2 ^ (p + 53) := Nat.one_mul _
  have hp := (Nat.pow_lt_pow_iff_right (by decide)).1 hpow
  have hleast := leastScale_eq
  have : 2047 ≤ p := by omega
  exact (Nat.mul_le_mul_right binade this).trans (Nat.le_add_right ..)

theorem rankOf_eq_zero {n d : Nat} (h : 2 * (n * 2 ^ leastScale) < d) : rankOf n d = 0 := by
  obtain rfl | hn := n.eq_zero_or_pos
  · rfl
  · have hscale : OnScale n d 0 := by
      refine ⟨?_, .inl rfl⟩
      have : d * 1 ≤ d * 2 ^ (0 + 53) := Nat.mul_le_mul_left d (Nat.two_pow_pos _)
      omega
    rw [rankOf_eq hn (by omega) hscale, Nat.pow_zero, Nat.mul_one, roundDiv_eq_zero h, Nat.zero_mul]

/-- The shortcuts for exponents out of reach give the ranks that they stand for. -/
theorem ofDecimal_eq (negative : Bool) (digits : Nat) (exponent : Int) :
    ofDecimal negative digits exponent =
      ofRank negative (rankOf (digits * 10 ^ exponent.toNat) (10 ^ (-exponent).toNat)) := by
  unfold ofDecimal
  split
  · next h => simp [h, rankOf]
  · next hdigits =>
    -- far out the powers are not computed, so infinity and zero have to be found without them
    split
    · next hlarge =>
      have hzero : (-exponent).toNat = 0 := by omega
      have hleast := leastScale_eq
      have hle : infinityRank ≤ rankOf (digits * 10 ^ exponent.toNat) 1 :=
        infinityRank_le_rankOf <|
          calc
            2 ^ leastScale ≤ 2 ^ (3 * exponent.toNat) :=
              Nat.pow_le_pow_right (by decide) (by omega)
            _ ≤ 10 ^ exponent.toNat := two_pow_le_ten_pow
            _ ≤ digits * 10 ^ exponent.toNat :=
              Nat.le_mul_of_pos_left _ (Nat.pos_of_ne_zero hdigits)
      rw [hzero, Nat.pow_zero]
      simp only [infinity, ofRank, Nat.min_self, Nat.min_eq_right hle]
    · split
      · next hsmall =>
        have hzero : exponent.toNat = 0 := by omega
        have hleast := leastScale_eq
        have hlt : 2 * (digits * 2 ^ leastScale) < 10 ^ (-exponent).toNat :=
          calc
            2 * (digits * 2 ^ leastScale) = digits * 2 ^ (leastScale + 1) := by
              rw [Nat.pow_succ, Nat.mul_comm 2, Nat.mul_assoc]
            _ < 2 ^ (digits.log2 + 1) * 2 ^ (leastScale + 1) :=
              Nat.mul_lt_mul_of_pos_right Nat.lt_log2_self (Nat.two_pow_pos _)
            _ = 2 ^ (digits.log2 + 1 + (leastScale + 1)) := (Nat.pow_add ..).symm
            _ ≤ 2 ^ (3 * (-exponent).toNat) := Nat.pow_le_pow_right (by decide) (by omega)
            _ ≤ 10 ^ (-exponent).toNat := two_pow_le_ten_pow
        rw [hzero, Nat.pow_zero, Nat.mul_one, rankOf_eq_zero hlt]
      · split
        · next h =>
          have hzero : (-exponent).toNat = 0 := by omega
          rw [hzero, Nat.pow_eq]
          rfl
        · next h =>
          have hzero : exponent.toNat = 0 := by omega
          rw [hzero, Nat.pow_eq, Nat.pow_zero, Nat.mul_one]
          rfl

end Decimal

section Whole

theorem significand_exact {p m : Nat} (hlt : m < 2 ^ 53) (hreached : p = 0 ∨ 2 ^ 52 ≤ m) :
    significand (p * binade + m) = m ∧ (p * binade + m) / binade - 1 = p := by
  unfold significand binade
  split <;> omega

theorem exists_exact_of_lt {n : Nat} (hn : 0 < n) (hlt : n < 2 ^ 53) : ∃ p m, 0 < m ∧ m < 2 ^ 53 ∧
    (p = 0 ∨ 2 ^ 52 ≤ m) ∧ p ≤ leastScale ∧ n * 2 ^ leastScale = m * 2 ^ p := by
  obtain ⟨hbelow, hreached⟩ := onScale_scaleOf hn Nat.one_pos
  generalize (scaleOf n 1 + leastScale).toNat = p at *
  rw [Nat.one_mul] at hbelow hreached
  have hp : p ≤ leastScale := by
    obtain rfl | hreached := hreached
    · exact Nat.zero_le _
    · have hpow : 2 ^ (p + 52) < 2 ^ (53 + leastScale) :=
        calc 2 ^ (p + 52) ≤ n * 2 ^ leastScale := hreached
          _ < 2 ^ 53 * 2 ^ leastScale := Nat.mul_lt_mul_of_pos_right hlt (Nat.two_pow_pos _)
          _ = 2 ^ (53 + leastScale) := (Nat.pow_add ..).symm
      have := (Nat.pow_lt_pow_iff_right (by decide)).1 hpow
      omega
  have hexact : n * 2 ^ leastScale = n * 2 ^ (leastScale - p) * 2 ^ p := by
    rw [Nat.mul_assoc, ← Nat.pow_add, Nat.sub_add_cancel hp]
  rw [hexact, Nat.add_comm, Nat.pow_add] at hbelow
  refine ⟨p, _, Nat.mul_pos hn (Nat.two_pow_pos _), Nat.lt_of_mul_lt_mul_right hbelow,
    hreached.imp_right fun hle => ?_, hp, hexact⟩
  rw [hexact, Nat.add_comm, Nat.pow_add] at hle
  exact Nat.le_of_mul_le_mul_right hle (Nat.two_pow_pos p)

theorem ratio_rankOf_of_lt {n : Nat} (hlt : n < 2 ^ 53) :
    rankOf n 1 < infinityRank ∧ (ratio (rankOf n 1)).1 = n * (ratio (rankOf n 1)).2 := by
  obtain rfl | hn := n.eq_zero_or_pos
  · decide +kernel
  obtain ⟨p, m, hm, hmlt, hreached, hp, hexact⟩ := exists_exact_of_lt hn hlt
  have hrank : rankOf n 1 = p * binade + m :=
    rankOf_of_exact Nat.one_pos hm hmlt hreached (by rwa [Nat.one_mul])
  obtain ⟨hsignificand, hscale⟩ := significand_exact hmlt hreached
  have hratio := ratio_eq (rankOf n 1)
  rw [hrank, hsignificand, hscale] at hratio
  rw [hrank]
  constructor
  · have hleast := leastScale_eq
    unfold infinityRank binade
    omega
  · refine Nat.eq_of_mul_eq_mul_right (Nat.two_pow_pos leastScale) ?_
    generalize ratio (p * binade + m) = r at *
    calc r.1 * 2 ^ leastScale = m * (r.2 * 2 ^ p) := hratio
      _ = m * 2 ^ p * r.2 := by rw [Nat.mul_comm r.2, Nat.mul_assoc]
      _ = n * 2 ^ leastScale * r.2 := by rw [hexact]
      _ = n * r.2 * 2 ^ leastScale := Nat.mul_right_comm ..

theorem truncate?_ofInt {n : Int} (hlt : n.natAbs < 2 ^ 53) : (ofInt n).truncate? = some n := by
  obtain ⟨hfinite, hratio⟩ := ratio_rankOf_of_lt hlt
  have hrank : min (rankOf n.natAbs 1) infinityRank = rankOf n.natAbs 1 := Nat.min_eq_left hfinite.le
  have hpos := ratio_pos (rankOf n.natAbs 1)
  simp only [ofInt, ofIntRatio, ofRatio, ofRank, truncate?, toRatio?, hrank, hfinite, if_true, hratio,
    decide_eq_true_eq, Option.map_some, Option.some.injEq]
  generalize (ratio (rankOf n.natAbs 1)).2 = d at *
  have hsign : (if n < 0 then -(n.natAbs * d : Nat) else (n.natAbs * d : Nat) : Int) = n * d := by
    rw [Int.natCast_mul]
    split
    · rw [← Int.neg_mul, Int.ofNat_natAbs_of_nonpos (by omega), Int.neg_neg]
    · rw [Int.natAbs_of_nonneg (by omega)]
  rw [hsign, Int.mul_tdiv_cancel _ (by omega)]

theorem ofIntRatio_mul (n : Int) {d c : Nat} (hd : 0 < d) (hc : 0 < c) :
    ofIntRatio (n * c) (d * c) = ofIntRatio n d := by
  have hpos : (0 : Int) < c := by omega
  have hsign : n * c < 0 ↔ n < 0 :=
    ⟨fun h => Int.neg_of_mul_neg_left h hpos, fun h => Int.mul_neg_of_neg_of_pos h hpos⟩
  simp only [ofIntRatio, ofRatio, hsign, Int.natAbs_mul, Int.natAbs_natCast, rankOf_mul hd hc]

end Whole

end ClusterHealth.Binary64
