import BatteryWatch.Decimal
import Mathlib

/-!
# Rounding to integers

What it means that a rational number is rounded to the nearest integer, a tie going to the even one
(`RoundsTo`). The integer is determined by the number and grows with it (`RoundsTo.mono`), and the
rounded quotient of two natural numbers is the one that their quotient rounds to
(`Binary64.roundsTo_roundDiv`).
-/

namespace BatteryWatch

/-- An integer is the one that a number rounds to: none is nearer, and if another one is as near, it
is even. -/
structure RoundsTo (x : ℚ) (n : ℤ) : Prop where
  nearest : ∀ k : ℤ, |x - n| ≤ |x - k|
  even : ∀ k : ℤ, k ≠ n → |x - k| = |x - n| → Even n

namespace RoundsTo

variable {x y : ℚ} {m n : ℤ}

/-- Different integers are at least one apart, so that no number is near to both. -/
theorem one_le_of_ne {k : ℤ} (hne : k ≠ n) : 1 ≤ |x - k| + |x - n| := by
  have hapart : (1 : ℤ) ≤ |n - k| := Int.one_le_abs (sub_ne_zero.mpr hne.symm)
  have hapart : (1 : ℚ) ≤ |(n : ℚ) - k| := by exact_mod_cast hapart
  calc (1 : ℚ) ≤ |(n : ℚ) - k| := hapart
    _ = |(x - k) - (x - n)| := by rw [sub_sub_sub_cancel_left]
    _ ≤ |x - k| + |x - n| := abs_sub _ _

/-- A number rounds to an integer that is at most one half away, and even if it is just that. -/
theorem of_half (hhalf : |x - n| ≤ 1 / 2) (heven : |x - n| = 1 / 2 → Even n) : RoundsTo x n where
  nearest k := by
    rcases eq_or_ne k n with rfl | hne
    · exact le_rfl
    · have hapart := one_le_of_ne (x := x) hne
      linarith
  even k hne htie := by
    have hapart := one_le_of_ne (x := x) hne
    refine heven (le_antisymm hhalf ?_)
    linarith

/-- No number is more than one half away from what it rounds to. -/
theorem half (h : RoundsTo x n) : |x - n| ≤ 1 / 2 :=
  (h.nearest (round x)).trans (abs_sub_round x)

/-- An integer rounds to itself. -/
theorem intCast (n : ℤ) : RoundsTo n n := by
  refine of_half ?_ ?_
  · rw [sub_self, abs_zero]
    norm_num
  · rw [sub_self, abs_zero]
    norm_num

/-- A larger number does not round to a smaller integer. -/
theorem mono (hx : RoundsTo x m) (hy : RoundsTo y n) (h : x ≤ y) : m ≤ n := by
  by_contra hless
  have hnext : n + 1 ≤ m := Int.add_one_le_of_lt (not_le.mp hless)
  have hnext' : (n : ℚ) + 1 ≤ m := by exact_mod_cast hnext
  obtain ⟨hx₁, hx₂⟩ := abs_le.mp hx.half
  obtain ⟨hy₁, hy₂⟩ := abs_le.mp hy.half
  -- both numbers lie halfway between the two integers, so that both integers would be even
  have hxm : x - m = -(1 / 2) := by linarith
  have hxn : x - n = 1 / 2 := by linarith
  have hyn : y - n = 1 / 2 := by linarith
  have hym : y - m = -(1 / 2) := by linarith
  have hm : Even m := hx.even n (by omega) (by rw [hxm, hxn, abs_neg])
  have hn : Even n := hy.even m (by omega) (by rw [hym, hyn, abs_neg])
  have hsucc : m = n + 1 := by
    have hsucc' : (m : ℚ) = n + 1 := by linarith
    exact_mod_cast hsucc'
  rw [hsucc] at hm
  exact (Int.not_even_iff_odd.mpr hn.add_one) hm

/-- A number rounds to one integer only. -/
theorem unique (hm : RoundsTo x m) (hn : RoundsTo x n) : m = n :=
  le_antisymm (hm.mono hn le_rfl) (hn.mono hm le_rfl)

end RoundsTo

namespace Binary64

/-- The rounded quotient is the quotient or the number after it: the one if the remainder is at most
half of the divisor, the other if it is at least half of it, and for just one half the one that is
even. -/
theorem roundDiv_cases (n d : ℕ) :
    roundDiv n d = n / d ∧ 2 * (n % d) ≤ d ∧ (2 * (n % d) = d → Even (n / d)) ∨
      roundDiv n d = n / d + 1 ∧ d ≤ 2 * (n % d) ∧ (2 * (n % d) = d → Even (n / d + 1)) := by
  have heven (k : ℕ) : Even k ↔ k % 2 = 0 := Nat.even_iff
  unfold roundDiv
  simp only [Bool.or_eq_true, Bool.and_eq_true, beq_iff_eq, decide_eq_true_eq, heven]
  split
  · right
    refine ⟨rfl, ?_, ?_⟩ <;> omega
  · left
    refine ⟨rfl, ?_, ?_⟩ <;> omega

/-- The quotient of two natural numbers rounds to their rounded quotient. -/
theorem roundsTo_roundDiv (n : ℕ) {d : ℕ} (hd : 0 < d) :
    RoundsTo ((n : ℚ) / d) (roundDiv n d : ℕ) := by
  have hpos : (0 : ℚ) < d := by exact_mod_cast hd
  have hrest : ((n % d : ℕ) : ℚ) < d := by exact_mod_cast Nat.mod_lt n hd
  have hsplit : (n : ℚ) = d * (n / d : ℕ) + (n % d : ℕ) := by
    exact_mod_cast (Nat.div_add_mod n d).symm
  -- the remainder is just one half of the divisor if a distance is just one half
  have htie (h : ((n % d : ℕ) : ℚ) = d / 2) : 2 * (n % d) = d := by
    have hdouble : (2 : ℚ) * (n % d : ℕ) = d := by linarith
    exact_mod_cast hdouble
  rcases roundDiv_cases n d with ⟨hdown, hhalf, heven⟩ | ⟨hup, hhalf, heven⟩
  · have hhalf : (2 : ℚ) * (n % d : ℕ) ≤ d := by exact_mod_cast hhalf
    have hdistance : |(n : ℚ) / d - ((n / d : ℕ) : ℤ)| = (n % d : ℕ) / d := by
      rw [Int.cast_natCast, abs_of_nonneg]
      · field_simp
        linarith
      · rw [sub_nonneg, le_div_iff₀ hpos]
        linarith [Nat.cast_nonneg (α := ℚ) (n % d)]
    rw [hdown]
    refine .of_half ?_ ?_
    · rw [hdistance, div_le_div_iff₀ hpos two_pos]
      linarith
    · intro h
      rw [hdistance, div_eq_iff hpos.ne'] at h
      exact (Int.even_coe_nat _).mpr (heven (htie (by linarith)))
  · have hhalf : (d : ℚ) ≤ 2 * (n % d : ℕ) := by exact_mod_cast hhalf
    have hdistance : |(n : ℚ) / d - ((n / d + 1 : ℕ) : ℤ)| = 1 - (n % d : ℕ) / d := by
      rw [Int.cast_natCast, abs_of_nonpos]
      · push_cast
        field_simp
        linarith
      · rw [sub_nonpos, div_le_iff₀ hpos]
        push_cast
        linarith
    rw [hup]
    refine .of_half ?_ ?_
    · rw [hdistance, sub_le_comm, le_div_iff₀ hpos]
      linarith
    · intro h
      have hfraction : ((n % d : ℕ) : ℚ) / d = 1 / 2 := by linarith
      rw [div_eq_iff hpos.ne'] at hfraction
      exact (Int.even_coe_nat _).mpr (heven (htie (by linarith)))

end Binary64

end BatteryWatch
