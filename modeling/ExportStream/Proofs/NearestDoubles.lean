import ExportStream.Decimal.Binary64
import Mathlib.Tactic.NormNum
/-!
# Integers that have a nearest double

An integer below `2 ^ 1024 - 2 ^ 970`, which lies half way between the largest finite double and the
next power of two, has a nearest double, of whatever sign (`Binary64.ofDecimal_integer`).

Two things bear on this. The power of two that the significand counts is fifty-two places below the
leading bit of the integer (`exponentFor_integer`), so that the significand is below `2 ^ 53` before
it is rounded. And rounding leaves below an integer what is more than half a unit below it
(`roundHalfEven_lt`), which matters for the largest exponent only.
-/

namespace ExportStream.Binary64

variable {n m num den : Nat}

/-! ### Rounding -/

/-- What is more than half a unit below an integer is rounded to less. -/
theorem roundHalfEven_lt (h : 2 * num + den < 2 * (m * den)) : roundHalfEven num den < m := by
  have hden : 0 < den := by
    rcases Nat.eq_zero_or_pos den with rfl | hden
    · omega
    · exact hden
  have hsplit := Nat.div_add_mod' num den
  have hmod := Nat.mod_lt num hden
  have hbelow : num / den < m := by
    rw [Nat.div_lt_iff_lt_mul hden]
    omega
  -- a remainder that carries leaves room for the carry
  have habove (hlarge : den ≤ 2 * (num % den)) : num / den + 1 < m := by
    by_contra hle
    have hmul := Nat.mul_le_mul_right den (Nat.le_of_not_lt hle)
    rw [Nat.succ_mul] at hmul
    omega
  unfold roundHalfEven
  simp only
  split_ifs with hless hmore heven
  · exact hbelow
  · exact habove hmore.le
  · exact hbelow
  · exact habove (Nat.le_of_not_lt hless)

/-! ### Scaling -/

/-- Scaling by a power of two whose exponent is a difference. -/
theorem scaled_sub (n a b : Nat) :
    scaled n 1 ((a : Int) - b) = (n * 2 ^ (b - a), 2 ^ (a - b)) := by
  unfold scaled
  simp only [Nat.pow_eq]
  split_ifs with h
  · have hup : (-((a : Int) - b)).toNat = b - a := by omega
    have hdown : a - b = 0 := by omega
    rw [hup, hdown, Nat.pow_zero]
  · have hup : b - a = 0 := by omega
    have hdown : ((a : Int) - b).toNat = a - b := by omega
    rw [hup, hdown, Nat.pow_zero, Nat.mul_one, Nat.one_mul]

theorem pow_shift (a b : Nat) : 2 ^ a * 2 ^ (b - a) = 2 ^ b * 2 ^ (a - b) := by
  rw [← Nat.pow_add, ← Nat.pow_add]
  congr 1
  omega

/-- The significand of an integer counts the power of two fifty-two places below its leading bit. -/
theorem exponentFor_integer (hn : n ≠ 0) : exponentFor n 1 = (Nat.log2 n : Int) - (52 : Nat) := by
  have hlarge : 2 ^ (Nat.log2 n - 53) * 0x20000000000000 ≤ n * 2 ^ (53 - Nat.log2 n) := by
    calc 2 ^ (Nat.log2 n - 53) * 0x20000000000000
        = 2 ^ Nat.log2 n * 2 ^ (53 - Nat.log2 n) := by
          rw [pow_shift, Nat.mul_comm]
          norm_num
      _ ≤ n * 2 ^ (53 - Nat.log2 n) := Nat.mul_le_mul_right _ (Nat.log2_self_le hn)
  have hone : Nat.log2 1 = 0 := by decide
  have hstart : (Nat.log2 n : Int) - Nat.log2 1 - 53 = (Nat.log2 n : Int) - (53 : Nat) := by
    rw [hone]
    omega
  unfold exponentFor
  simp only [hstart, scaled_sub, if_neg (Nat.not_lt.mpr hlarge)]
  omega

/-- The magnitude of an integer: its exponent, and its rounded significand. -/
theorem magnitudeFor_integer (hn : n ≠ 0) :
    magnitudeFor n 1 = (Nat.log2 n + 1022) * 0x10000000000000 +
      roundHalfEven (n * 2 ^ (52 - Nat.log2 n)) (2 ^ (Nat.log2 n - 52)) := by
  have hexponent : ((Nat.log2 n : Int) - (52 : Nat) + 1074).toNat = Nat.log2 n + 1022 := by omega
  rw [magnitudeFor, if_neg hn, exponentFor_integer hn]
  simp only [scaled_sub]
  rw [hexponent]

/-! ### Integers that are not too large -/

/-- Before it is rounded, a significand is less than twice its least value. -/
theorem significand_lt (n : Nat) :
    n * 2 ^ (52 - Nat.log2 n) < 2 ^ 53 * 2 ^ (Nat.log2 n - 52) := by
  have hshift := pow_shift (Nat.log2 n) 52
  have hpos : 0 < 2 ^ (52 - Nat.log2 n) := Nat.two_pow_pos _
  calc n * 2 ^ (52 - Nat.log2 n)
      < 2 ^ (Nat.log2 n + 1) * 2 ^ (52 - Nat.log2 n) :=
        Nat.mul_lt_mul_of_pos_right Nat.lt_log2_self hpos
    _ = 2 ^ 53 * 2 ^ (Nat.log2 n - 52) := by
        rw [Nat.pow_succ, Nat.mul_right_comm, hshift, Nat.mul_right_comm]
        norm_num

theorem magnitudeFor_integer_lt (h : n < 2 ^ 1024 - 2 ^ 970) :
    magnitudeFor n 1 < 2047 * 0x10000000000000 := by
  rcases Nat.eq_zero_or_pos n with rfl | hpos
  · decide
  have hn := Nat.ne_of_gt hpos
  have hlog : Nat.log2 n ≤ 1023 := by
    have : Nat.log2 n < 1024 := (Nat.log2_lt hn).mpr (by omega)
    omega
  have hsignificand := significand_lt n
  rw [magnitudeFor_integer hn]
  rcases Nat.lt_or_eq_of_le hlog with hsmall | htop
  · -- a carry into the exponent does no harm
    have hround :
        roundHalfEven (n * 2 ^ (52 - Nat.log2 n)) (2 ^ (Nat.log2 n - 52)) < 2 ^ 53 + 1 := by
      refine roundHalfEven_lt ?_
      rw [Nat.succ_mul]
      omega
    omega
  · -- here a carry would be infinite, and there is none
    have hround : roundHalfEven (n * 2 ^ (52 - Nat.log2 n)) (2 ^ (Nat.log2 n - 52)) < 2 ^ 53 := by
      refine roundHalfEven_lt ?_
      rw [htop]
      norm_num at h ⊢
      omega
    omega

theorem length_toDigits_le {k : Nat} (hk : 0 < k) (h : n < 10 ^ k) :
    (Nat.toDigits 10 n).length ≤ k :=
  (Nat.length_toDigits_le_iff (by decide) hk).mpr h

/-- **An integer that is not too large has a nearest double**, of either sign. -/
theorem ofDecimal_integer (negative : Bool) (h : n < 2 ^ 1024 - 2 ^ 970) :
    ∃ x, ofDecimal negative n 0 = some x := by
  unfold ofDecimal
  by_cases hzero : n = 0
  · exact ⟨zero negative, if_pos hzero⟩
  · have hbound : 2 ^ 1024 - 2 ^ 970 < 10 ^ 310 := by decide +kernel
    have hdigits := length_toDigits_le (k := 310) (by decide) (Nat.lt_trans h hbound)
    have hsize : ¬(310 : Int) < (Nat.toDigits 10 n).length + 0 := by omega
    have hsize' : ¬((Nat.toDigits 10 n).length + 0 : Int) < -330 := by omega
    have hnearest : nearest negative n 1 = some ⟨negative, _, magnitudeFor_integer_lt h⟩ :=
      dif_pos (magnitudeFor_integer_lt h)
    rw [if_neg hzero]
    simp only [if_neg hsize, if_neg hsize', if_neg (Int.lt_irrefl 0)]
    rw [show n * Nat.pow 10 (0 : Int).toNat = n from Nat.mul_one n]
    exact ⟨_, hnearest⟩

end ExportStream.Binary64
