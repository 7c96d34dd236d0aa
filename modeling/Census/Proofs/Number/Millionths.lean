import Census.Proofs.Number.Quotient
import Mathlib.Algebra.Order.Field.Rat
import Mathlib.Tactic.Linarith
import Mathlib.Tactic.Positivity
import Mathlib.Tactic.Push
import Mathlib.Tactic.Ring

/-! The double that a decimal with six places is read as. Whole numbers and their halves are doubles,
so none of them separates the decimal from its double. -/
namespace Census.Number

open Float.Model Float.Model.UnpackedFloat

section Scientific

/-- A double with 53 places next to a number of millionths. -/
def BesideMillionths (m : Nat) (x : UnpackedFloat) : Prop :=
  ∃ M E h, x = .finite .positive M E h ∧ 2 ^ 52 ≤ M ∧ M < 2 ^ 53 ∧ ∃ s carry : Nat, s ≤ 1 ∧
    carry ≤ 1 ∧ E = m.log2 - 72 + s + carry ∧
    Beside (m * 2 ^ (72 - m.log2)) (1000000 * 2 ^ s) (M * 2 ^ carry)

theorem log2_lt_of_lt {m : Nat} (hm : 0 < m) (hlt : m < 2 ^ 70) : m.log2 < 70 :=
  (Nat.log2_lt (by omega)).mpr hlt

theorem besideMillionths_short {m : Nat} (hm : 0 < m) (hshort : m < 2 ^ 53) :
    BesideMillionths m (Float.ofScientific m true 6).toModel.unpack := by
  have hbits : m.log2 ≤ 52 := by
    have := (Nat.log2_lt (by omega)).mpr hshort
    omega
  obtain ⟨h, hnumerator⟩ := unpack_toFloat hm hshort
  have hpower : (getElem Float.exactlyRepresentablePowersOfTen 6 (by decide)).toModel.unpack =
      .finite .positive (1000000 * 2 ^ 33) (-33) (by decide) := rfl
  have hlog : (m * 2 ^ (52 - m.log2)).log2 = 52 :=
    log2_eq_of_bits (bits_scaled hm hbits).1 (bits_scaled hm hbits).2
  have hlog' : (1000000 * 2 ^ 33).log2 = 52 := log2_eq_of_bits (by decide) (by decide)
  obtain ⟨M, E, hpos, hdiv, hlow, hhigh, s, carry, hs, hcarry, hE, hbeside⟩ :=
    div_eq .positive .positive (m.log2 - 52) (-33) h (by decide : 0 < 1000000 * 2 ^ 33)
      (by omega) (by omega)
  rw [hlog, hlog'] at hE hbeside
  have hquotient : (Float.ofScientific m true 6).toModel.unpack = .finite .positive M E hpos := by
    unfold Float.ofScientific
    rw [dif_pos ⟨hshort, by decide⟩, if_pos rfl]
    change (Float.Model.pack (div Format.binary64 m.toUInt64.toFloat.toModel.unpack
      (getElem Float.exactlyRepresentablePowersOfTen 6 (by decide)).toModel.unpack)).unpack = _
    rw [hnumerator, hpower, hdiv]
    exact unpack_pack _ hpos hlow hhigh (by omega)
  refine ⟨M, E, hpos, hquotient, hlow, hhigh, s, carry, hs, hcarry, by omega, ?_⟩
  refine Beside.of_mul (c := 2 ^ 33) (by decide) ?_
  convert hbeside using 1
  · rw [Nat.mul_assoc, Nat.mul_assoc, ← Nat.pow_add, ← Nat.pow_add]
    congr 2
    omega
  · ring

theorem besideMillionths_long {m : Nat} (hlong : 2 ^ 53 ≤ m) (hlt : m < 2 ^ 70) :
    BesideMillionths m (Float.ofScientific m true 6).toModel.unpack := by
  have hm : 0 < m := by omega
  have hbits := log2_lt_of_lt hm hlt
  have hlog : (1000000).log2 = 19 := by decide
  obtain ⟨M, E, hpos, hdiv, hlow, hhigh, s, carry, hs, hcarry, hE, hbeside⟩ :=
    div_eq .positive .positive 0 0 hm (by decide : 0 < 1000000) (by omega) (by omega)
  rw [hlog] at hE hbeside
  have hquotient : (Float.ofScientific m true 6).toModel.unpack = .finite .positive M E hpos := by
    unfold Float.ofScientific
    rw [dif_neg (by omega)]
    change (Float.Model.pack (ofScientific Format.binary64 m (-6))).unpack = _
    have hscientific : ofScientific Format.binary64 m (-6) = .finite .positive M E hpos := by
      have hnormal : ¬ (-6 : Int) < -((2 ^ Format.binary64.exponentBits : Int) + m.log2) := by
        change ¬ (-6 : Int) < -(2048 + (m.log2 : Int))
        omega
      unfold UnpackedFloat.ofScientific
      rw [dif_neg (by omega), if_neg (by decide), if_neg hnormal, if_neg (by decide)]
      exact hdiv
    rw [hscientific]
    exact unpack_pack _ hpos hlow hhigh (by omega)
  exact ⟨M, E, hpos, hquotient, hlow, hhigh, s, carry, hs, hcarry, by omega, hbeside⟩

theorem besideMillionths {m : Nat} (hm : 0 < m) (hlt : m < 2 ^ 70) :
    BesideMillionths m (Float.ofScientific m true 6).toModel.unpack := by
  by_cases hshort : m < 2 ^ 53
  · exact besideMillionths_short hm hshort
  · exact besideMillionths_long (by omega) hlt

end Scientific

section Halves

/-- A value on the same side of every half of a whole number as a number of millionths. -/
def KeepsHalves (n : Int) (v : Rat) : Prop :=
  ∀ j : Int, (j * 1000000 ≤ 2 * n → (j : Rat) ≤ 2 * v) ∧ (2 * n ≤ j * 1000000 → 2 * v ≤ j)

theorem KeepsHalves.neg {n : Int} {v : Rat} (h : KeepsHalves n v) : KeepsHalves (-n) (-v) := by
  intro j
  obtain ⟨hlow, hhigh⟩ := h (-j)
  push_cast at hlow hhigh
  constructor
  · intro hj
    have := hhigh (by omega)
    linarith
  · intro hj
    have := hlow (by omega)
    linarith

theorem KeepsHalves.eq_of_whole {k : Int} {v : Rat} (h : KeepsHalves (k * 1000000) v) : v = k := by
  obtain ⟨hlow, hhigh⟩ := h (2 * k)
  have hlow := hlow (by omega)
  have hhigh := hhigh (by omega)
  push_cast at hlow hhigh
  linarith

theorem keepsHalves_of_natural {m : Nat} {v : Rat} (hv : 0 ≤ v)
    (h : ∀ j : Nat, (j * 1000000 ≤ 2 * m → (j : Rat) ≤ 2 * v) ∧
      (2 * m ≤ j * 1000000 → 2 * v ≤ j)) : KeepsHalves m v := by
  intro j
  rcases Int.le_total 0 j with hj | hj
  · obtain ⟨i, rfl⟩ := Int.eq_ofNat_of_zero_le hj
    obtain ⟨hlow, hhigh⟩ := h i
    push_cast
    exact ⟨fun hi => hlow (by omega), fun hi => hhigh (by omega)⟩
  · have hcast : (j : Rat) ≤ 0 := by exact_mod_cast hj
    refine ⟨fun _ => by linarith, fun hi => ?_⟩
    obtain ⟨rfl, rfl⟩ : m = 0 ∧ j = 0 := by omega
    simpa using (h 0).2

/-- Halves lie on the grid of a double whose last place is less than a half. -/
theorem keepsHalves_of_beside {m M D carry : Nat} (hcarry : carry ≤ D)
    (hbeside : Beside (m * 2 ^ (D + 1)) 1000000 (M * 2 ^ carry)) :
    KeepsHalves m (M / 2 ^ (D + 1 - carry) : Rat) := by
  have hgrid : 2 ^ D * 2 = 2 ^ (D + 1 - carry) * 2 ^ carry := by
    rw [← Nat.pow_succ]
    exact two_pow_eq_mul (by omega)
  have hpos : 0 < 2 ^ carry := Nat.two_pow_pos carry
  have hunit : (0 : Rat) < 2 ^ (D + 1 - carry) := by positivity
  refine keepsHalves_of_natural (div_nonneg (Nat.cast_nonneg M) hunit.le) fun j =>
    ⟨fun hj => ?_, fun hj => ?_⟩
  · have hmultiple : j * 2 ^ D ≤ M * 2 ^ carry := by
      refine hbeside.le (by decide) ?_
      calc j * 2 ^ D * 1000000 = j * 1000000 * 2 ^ D := by ring
        _ ≤ 2 * m * 2 ^ D := Nat.mul_le_mul_right _ hj
        _ = m * 2 ^ (D + 1) := by ring
    have hle : j * 2 ^ (D + 1 - carry) ≤ 2 * M := by
      refine Nat.le_of_mul_le_mul_right ?_ hpos
      calc j * 2 ^ (D + 1 - carry) * 2 ^ carry = j * 2 ^ D * 2 := by
            rw [Nat.mul_assoc, ← hgrid]
            ring
        _ ≤ M * 2 ^ carry * 2 := Nat.mul_le_mul_right 2 hmultiple
        _ = 2 * M * 2 ^ carry := by ring
    rw [← mul_div_assoc, le_div_iff₀ hunit]
    exact_mod_cast hle
  · have hmultiple : M * 2 ^ carry ≤ j * 2 ^ D := by
      refine hbeside.ge ?_
      calc m * 2 ^ (D + 1) = 2 * m * 2 ^ D := by ring
        _ ≤ j * 1000000 * 2 ^ D := Nat.mul_le_mul_right _ hj
        _ = j * 2 ^ D * 1000000 := by ring
    have hle : 2 * M ≤ j * 2 ^ (D + 1 - carry) := by
      refine Nat.le_of_mul_le_mul_right ?_ hpos
      calc 2 * M * 2 ^ carry = M * 2 ^ carry * 2 := by ring
        _ ≤ j * 2 ^ D * 2 := Nat.mul_le_mul_right 2 hmultiple
        _ = j * 2 ^ (D + 1 - carry) * 2 ^ carry := by
            rw [Nat.mul_assoc, hgrid]
            ring
    rw [← mul_div_assoc, div_le_iff₀ hunit]
    exact_mod_cast hle

theorem value?_of_unpack {x : Float} {sign : Sign} {M : Nat} {E : Int} {h : 0 < M}
    (hx : x.toModel.unpack = .finite sign M E h) (hE : E < 0) :
    value? x = some ((sign.apply M : Int) / 2 ^ (-E).toNat : Rat) := by
  unfold value?
  rw [hx]
  dsimp only
  have hpow : Nat.pow 2 (-E).toNat = 2 ^ (-E).toNat := rfl
  rw [if_neg (by omega), Rat.mkRat_eq_div, hpow]
  push_cast
  rfl

/-- A decimal with six places is read as a value that no half of a whole number separates from
it. -/
theorem value?_ofScaled {n : Int} (hn : n.natAbs < 2 ^ 70) :
    ∃ v, value? (ofScaled n 6) = some v ∧ KeepsHalves n v := by
  rcases Nat.eq_zero_or_pos n.natAbs with hzero | hpos
  · obtain rfl := Int.natAbs_eq_zero.mp hzero
    refine ⟨0, by decide, fun j => ⟨fun hj => ?_, fun hj => ?_⟩⟩
    · have : (j : Rat) ≤ 0 := by exact_mod_cast (by omega : j ≤ 0)
      linarith
    · have : (0 : Rat) ≤ j := by exact_mod_cast (by omega : 0 ≤ j)
      linarith
  · obtain ⟨M, E, h, hunpack, hlow, hhigh, s, carry, hs, hcarry, hE, hbeside⟩ :=
      besideMillionths hpos hn
    have hlog := log2_lt_of_lt hpos hn
    have hkeeps : KeepsHalves n.natAbs (M / 2 ^ (-E).toNat : Rat) := by
      have hsplit : 72 - n.natAbs.log2 = 71 - n.natAbs.log2 - s + 1 + s := by omega
      have hexponent : (-E).toNat = 71 - n.natAbs.log2 - s + 1 - carry := by omega
      rw [hsplit, Nat.pow_add, ← Nat.mul_assoc] at hbeside
      rw [hexponent]
      exact keepsHalves_of_beside (by omega) (hbeside.of_mul (Nat.two_pow_pos s))
    rcases Int.natAbs_eq n with hsign | hsign
    · have hscaled : ofScaled n 6 = Float.ofScientific n.natAbs true 6 := by
        change (if decide (n < 0) then _ else _) = _
        rw [decide_eq_false (by omega)]
        rfl
      refine ⟨_, hscaled ▸ value?_of_unpack hunpack (by omega), ?_⟩
      rw [hsign]
      exact hkeeps
    · have hscaled : ofScaled n 6 = -Float.ofScientific n.natAbs true 6 := by
        change (if decide (n < 0) then _ else _) = _
        rw [decide_eq_true (by omega)]
        rfl
      have hnegated : (-Float.ofScientific n.natAbs true 6).toModel.unpack =
          .finite .negative M E h := by
        change (Float.Model.pack (Float.ofScientific n.natAbs true 6).toModel.unpack.neg).unpack = _
        rw [hunpack]
        exact unpack_pack .negative h hlow hhigh (by omega)
      refine ⟨_, hscaled ▸ value?_of_unpack hnegated (by omega), ?_⟩
      rw [hsign]
      convert hkeeps.neg using 1
      simp [Sign.apply, neg_div]

end Halves

end Census.Number
