import ClusterHealth.Number.Shortest
import ClusterHealth.Proofs.Number.Rounding

/-!
The shortest decimal of a number reads back as that number: one found on a grid because it was tried,
the exact value because its quotient is the number's own, and trimming zeros moves neither.
-/

namespace ClusterHealth.Decimal

open ClusterHealth.Binary64

def rank (x : Decimal) : Nat := rankOf (x.digits * 10 ^ x.exponent.toNat) (10 ^ (-x.exponent).toNat)

theorem ofDecimal_eq_ofRank (negative : Bool) (x : Decimal) :
    ofDecimal negative x.digits x.exponent = ofRank negative x.rank :=
  ofDecimal_eq ..

theorem rank_shift (n k : Nat) (e : Int) : rank ⟨n * 10 ^ k, e - k⟩ = rank ⟨n, e⟩ := by
  have hup : k + (e - k).toNat = e.toNat + (k - e.toNat) := by omega
  have hdown : (-(e - k)).toNat = (-e).toNat + (k - e.toNat) := by omega
  rw [rank, rank, Nat.mul_assoc, ← Nat.pow_add, hup, hdown, rankOf_mul_pow]

theorem ofDecimal_shift (negative : Bool) (n k : Nat) (e : Int) :
    ofDecimal negative (n * 10 ^ k) (e - k) = ofDecimal negative n e := by
  have hshift := rank_shift n k e
  rw [ofDecimal_eq_ofRank negative ⟨n * 10 ^ k, e - k⟩, hshift, ← ofDecimal_eq_ofRank]

theorem rank_trimZeros (fuel : Nat) (x : Decimal) : (trimZeros fuel x).rank = x.rank := by
  fun_induction trimZeros fuel x with
  | case1 x => rfl
  | case2 fuel x h ih =>
    have hdigits : x.digits = x.digits / 10 * 10 ^ 1 := by omega
    have hshift := rank_shift (x.digits / 10) 1 (x.exponent + 1)
    rw [ih, ← hshift, ← hdigits, Int.natCast_one, Int.add_sub_cancel]
  | case3 fuel x h => rfl

theorem rank_exact (r : Nat) : (exact r).rank = r := by
  refine Eq.trans ?_ (rankOf_ratio r)
  unfold exact ratio
  dsimp only
  split
  · simp [rank, Nat.pow_eq]
  · next h =>
    have hzero : (scale r).toNat = 0 := by omega
    have hten : 10 ^ (-scale r).toNat = 2 ^ (-scale r).toNat * 5 ^ (-scale r).toNat :=
      Nat.mul_pow 2 5 _
    simp only [rank, Nat.pow_eq, hzero, Nat.pow_zero, Nat.mul_one]
    rw [hten, rankOf_mul (Nat.two_pow_pos _) (Nat.pow_pos (by decide))]

theorem rank_of_readsBack {r : Nat} {x : Decimal} (hr : r < infinityRank) (h : readsBack r x = true) :
    x.rank = r := by
  rw [readsBack, toBinary64, ofDecimal_eq_ofRank, ofRank] at h
  simp only [beq_iff_eq] at h
  omega

theorem rank_of_onGrid {r n d : Nat} {e : Int} {x : Decimal} (hr : r < infinityRank)
    (h : onGrid? r n d e = some x) : x.rank = r := by
  refine rank_of_readsBack hr ?_
  unfold onGrid? at h
  generalize (if 0 ≤ e then _ else _ : Nat × Nat) = quotient at h
  dsimp only at h
  split at h
  · next hlow hhigh =>
    obtain rfl := Option.some.inj h
    split <;> assumption
  · next hlow _ => exact Option.some.inj h ▸ hlow
  · next _ hhigh => exact Option.some.inj h ▸ hhigh
  · cases h

theorem rank_shortest {r : Nat} (hr : r < infinityRank) : (shortest r).rank = r := by
  unfold shortest
  split
  · next hzero =>
    subst hzero
    decide
  · dsimp only
    rw [rank_trimZeros]
    generalize hfound : List.findSome? _ _ = found
    cases found with
    | none => exact rank_exact r
    | some x =>
      obtain ⟨i, -, h⟩ := List.exists_of_findSome?_eq_some hfound
      exact rank_of_onGrid hr h

theorem ofDecimal_shortest (negative : Bool) {r : Fin (infinityRank + 1)}
    (hr : r.val < infinityRank) :
    ofDecimal negative (shortest r.val).digits (shortest r.val).exponent = .signed negative r := by
  simp only [ofDecimal_eq_ofRank, rank_shortest hr, ofRank, Nat.min_eq_left hr.le]

end ClusterHealth.Decimal
