import Census.Number.Basic
import Mathlib.Algebra.Group.Nat.Defs

/-! What rounding to a double keeps of a whole number: all of it up to `2 ^ 53`, its sign always,
and at least half of its size. -/
namespace Census.Number

theorem doubleUnit_le {n : Nat} (h : n ≠ 0) : doubleUnit n ≤ n := by
  unfold doubleUnit
  calc 2 ^ (n.log2 - 52) ≤ 2 ^ n.log2 := Nat.pow_le_pow_right (by decide) (Nat.sub_le _ _)
    _ ≤ n := Nat.log2_self_le h

theorem le_two_mul_divideToEven {n unit : Nat} (hpos : 0 < unit) (h : unit ≤ n) :
    n ≤ 2 * (divideToEven n unit * unit) := by
  have hquotient : 1 ≤ n / unit := (Nat.one_le_div_iff hpos).mpr h
  have hrest : n % unit < unit := Nat.mod_lt n hpos
  have hsplit : n / unit * unit + n % unit = n := by
    rw [Nat.mul_comm]
    exact Nat.div_add_mod n unit
  have hunit : 1 * unit ≤ n / unit * unit := Nat.mul_le_mul_right unit hquotient
  have hround : n / unit * unit ≤ divideToEven n unit * unit := by
    apply Nat.mul_le_mul_right
    unfold divideToEven
    dsimp only
    split <;> omega
  omega

theorem le_two_mul_nearestDouble {n : Int} (h : 0 < n) : n ≤ 2 * nearestDouble n := by
  have hne : n.natAbs ≠ 0 := by omega
  have hpos : 0 < doubleUnit n.natAbs := Nat.pow_pos (by decide)
  have hsize := le_two_mul_divideToEven hpos (doubleUnit_le hne)
  unfold nearestDouble
  dsimp only
  rw [if_neg (by omega), ← Int.natCast_mul]
  omega

theorem nearestDouble_of_neg {n : Int} (h : n < 0) : nearestDouble n < 0 := by
  have hne : n.natAbs ≠ 0 := by omega
  have hpos : 0 < doubleUnit n.natAbs := Nat.pow_pos (by decide)
  have hsize := le_two_mul_divideToEven hpos (doubleUnit_le hne)
  unfold nearestDouble
  dsimp only
  rw [if_pos h, ← Int.natCast_mul]
  omega

theorem nearestDouble_of_le {n : Int} (h : n.natAbs ≤ 2 ^ 53) : nearestDouble n = n := by
  rcases Nat.lt_or_eq_of_le h with hlt | heq
  · exact nearestDouble_of_lt hlt
  · rcases Int.natAbs_eq n with hn | hn <;> rw [heq] at hn <;> rw [hn] <;> decide

end Census.Number
