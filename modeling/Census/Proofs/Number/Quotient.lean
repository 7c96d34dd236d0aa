import Census.Number.Basic
import Mathlib.Algebra.Group.Nat.Defs

/-! Quotients of doubles. A quotient is taken with enough places and rounded to one of the two whole
numbers of last places around it, and to itself where it is one; it is packed without loss. -/
namespace Census.Number

open Float.Model Float.Model.UnpackedFloat

theorem two_pow_eq_mul {a b c : Nat} (h : a = b + c) : (2 : Nat) ^ a = 2 ^ b * 2 ^ c := by
  rw [h, Nat.pow_add]

section Shift

theorem mantissa_shift (em : ExtendedMantissa) (n : Nat) :
    (em >>> n).mantissa = em.mantissa / 2 ^ n := by
  induction n with
  | zero => exact (Nat.div_one _).symm
  | succ n ih =>
    change (ExtendedMantissa.shiftRightOne (em >>> n)).mantissa = _
    rw [ExtendedMantissa.shiftRightOne, ih, Nat.div_div_eq_div_mul, Nat.pow_succ]

theorem shift_exact (m n : Nat) :
    ExtendedMantissa.ofMantissaAndAccuracy (m * 2 ^ n) .exact >>> n =
      ExtendedMantissa.ofMantissaAndAccuracy m .exact := by
  induction n generalizing m with
  | zero =>
    rw [Nat.pow_zero, Nat.mul_one]
    rfl
  | succ n ih =>
    change ExtendedMantissa.shiftRightOne
      (ExtendedMantissa.ofMantissaAndAccuracy (m * 2 ^ (n + 1)) .exact >>> n) = _
    have hsplit : m * 2 ^ (n + 1) = m * 2 * 2 ^ n := by
      rw [Nat.pow_succ]
      ac_rfl
    rw [hsplit, ih]
    simp [ExtendedMantissa.shiftRightOne, ExtendedMantissa.ofMantissaAndAccuracy]

theorem mantissa_ofMantissaAndAccuracy (m : Nat) (a : Accuracy) :
    (ExtendedMantissa.ofMantissaAndAccuracy m a).mantissa = m := by
  rcases a with _ | (_ | _ | _) <;> rfl

theorem roundedMantissa_bounds (em : ExtendedMantissa) :
    em.mantissa ≤ em.roundedMantissa ∧ em.roundedMantissa ≤ em.mantissa + 1 := by
  rcases em with ⟨m, _ | _, _ | _⟩ <;>
    simp only [ExtendedMantissa.roundedMantissa, ExtendedMantissa.accuracy,
      Accuracy.roundToNearestEven] <;> omega

end Shift

/-- A whole number next to a quotient, or the quotient itself where it is whole. -/
def Beside (n d r : Nat) : Prop :=
  n / d ≤ r ∧ r ≤ n / d + 1 ∧ (d ∣ n → r = n / d)

section Beside

variable {n d r k : Nat}

theorem Beside.le (h : Beside n d r) (hd : 0 < d) (hk : k * d ≤ n) : k ≤ r :=
  Nat.le_trans ((Nat.le_div_iff_mul_le hd).mpr hk) h.1

theorem Beside.ge (h : Beside n d r) (hk : n ≤ k * d) : r ≤ k := by
  obtain ⟨-, hhigh, hwhole⟩ := h
  have hfloor : n / d ≤ k := Nat.div_le_of_le_mul (by rwa [Nat.mul_comm])
  rcases Nat.lt_or_eq_of_le hfloor with hlt | heq
  · omega
  · have hn : n = k * d := Nat.le_antisymm hk (heq ▸ Nat.div_mul_le_self n d)
    rw [hwhole (hn ▸ Nat.dvd_mul_left d k)]
    exact hfloor

theorem beside_roundedMantissa (n : Nat) {d : Nat} (hd : 0 < d) (s : Nat) :
    Beside n (d * 2 ^ s) (ExtendedMantissa.ofMantissaAndAccuracy (n / d)
      (accuracyOfFraction (n % d) d) >>> s).roundedMantissa := by
  have hmantissa : (ExtendedMantissa.ofMantissaAndAccuracy (n / d)
      (accuracyOfFraction (n % d) d) >>> s).mantissa = n / (d * 2 ^ s) := by
    rw [mantissa_shift, mantissa_ofMantissaAndAccuracy, Nat.div_div_eq_div_mul]
  obtain ⟨hlow, hhigh⟩ := roundedMantissa_bounds (ExtendedMantissa.ofMantissaAndAccuracy (n / d)
    (accuracyOfFraction (n % d) d) >>> s)
  rw [hmantissa] at hlow hhigh
  refine ⟨hlow, hhigh, ?_⟩
  rintro ⟨k, rfl⟩
  have hquotient : d * 2 ^ s * k / d = k * 2 ^ s := by
    rw [Nat.mul_assoc, Nat.mul_div_cancel_left _ hd, Nat.mul_comm]
  have hrest : d * 2 ^ s * k % d = 0 := by
    rw [Nat.mul_assoc]
    exact Nat.mul_mod_right d _
  have hexact : accuracyOfFraction 0 d = .exact := rfl
  rw [hquotient, hrest, hexact, shift_exact,
    Nat.mul_div_cancel_left k (Nat.mul_pos hd (Nat.two_pow_pos s))]
  rfl

end Beside

section Round

theorem shiftToTargetExponent_eq {m s : Nat} {t : Int} (a : Accuracy)
    (h : (max ((m.log2 : Int) + 1 + t - 53) (-1074) - t).toNat = s) :
    shiftToTargetExponent Format.binary64 m t a =
      (ExtendedMantissa.ofMantissaAndAccuracy m a >>> s, t + s) := by
  subst h
  rfl

theorem log2_eq_of_bits {m : Nat} (hlow : 2 ^ 52 ≤ m) (hhigh : m < 2 ^ 53) : m.log2 = 52 :=
  (Nat.log2_eq_iff (by omega)).mpr ⟨hlow, hhigh⟩

/-- A mantissa with `52 + s` places behind its first is cut to 53 bits and rounded. A carry into a
new bit moves the exponent by one. -/
theorem roundWithAccuracy_eq (sign : Sign) {m s : Nat} {t : Int} {a : Accuracy}
    (hlog : m.log2 = 52 + s) (ht : -1074 ≤ t + s) :
    ∃ M E h, roundWithAccuracy Format.binary64 sign m t a = .finite sign M E h ∧
      2 ^ 52 ≤ M ∧ M < 2 ^ 53 ∧ ∃ carry : Nat, carry ≤ 1 ∧ E = t + s + carry ∧
        M * 2 ^ carry = (ExtendedMantissa.ofMantissaAndAccuracy m a >>> s).roundedMantissa := by
  have hfirst : shiftToTargetExponent Format.binary64 m t a =
      (ExtendedMantissa.ofMantissaAndAccuracy m a >>> s, t + s) :=
    shiftToTargetExponent_eq a (by omega)
  generalize hem : ExtendedMantissa.ofMantissaAndAccuracy m a >>> s = em at hfirst ⊢
  have hm : m ≠ 0 := by
    rintro rfl
    rw [Nat.log2_zero] at hlog
    omega
  have hmantissa : em.mantissa = m / 2 ^ s := by
    rw [← hem, mantissa_shift, mantissa_ofMantissaAndAccuracy]
  have hbits : 2 ^ 52 ≤ em.mantissa ∧ em.mantissa < 2 ^ 53 := by
    obtain ⟨hlow, hhigh⟩ := (Nat.log2_eq_iff hm).mp hlog
    rw [hmantissa]
    constructor
    · rw [Nat.le_div_iff_mul_le (Nat.two_pow_pos s), ← Nat.pow_add]
      exact hlow
    · rw [Nat.div_lt_iff_lt_mul (Nat.two_pow_pos s), ← Nat.pow_add]
      rwa [show 53 + s = 52 + s + 1 by omega]
  obtain ⟨hlow, hhigh⟩ := roundedMantissa_bounds em
  unfold roundWithAccuracy
  rw [hfirst]
  dsimp only
  generalize em.roundedMantissa = r at hlow hhigh ⊢
  rcases Nat.lt_or_eq_of_le (show r ≤ 2 ^ 53 by omega) with hr | rfl
  · have hlog' := log2_eq_of_bits (by omega) hr
    rw [shiftToTargetExponent_eq (s := 0) .exact (by omega)]
    have hr0 : r ≠ 0 := by omega
    exact ⟨r, t + s + (0 : Nat), by omega, dif_neg hr0, by omega, hr, 0, by omega, rfl,
      Nat.mul_one r⟩
  · have hlog' : (2 ^ 53).log2 = 53 := Nat.log2_two_pow
    rw [shiftToTargetExponent_eq (s := 1) .exact (by omega)]
    have hhalf : (ExtendedMantissa.ofMantissaAndAccuracy (2 ^ 53) .exact >>> 1).mantissa ≠ 0 := by
      decide
    exact ⟨2 ^ 52, t + s + (1 : Nat), by omega, dif_neg hhalf, by omega, by omega, 1, by omega, rfl,
      rfl⟩

end Round

section Divide

theorem Beside.of_mul {n d r c : Nat} (hc : 0 < c) (h : Beside (n * c) (d * c) r) :
    Beside n d r := by
  obtain ⟨hlow, hhigh, hwhole⟩ := h
  rw [Nat.mul_div_mul_right n d hc] at hlow hhigh hwhole
  exact ⟨hlow, hhigh, fun hd => hwhole (Nat.mul_dvd_mul_right hd c)⟩

theorem log2_quotient {m m' : Nat} (hm : 0 < m) (hm' : 0 < m') (hbits : m.log2 ≤ m'.log2 + 53) :
    ∃ s ≤ 1, (m * 2 ^ (m'.log2 + 53 - m.log2) / m').log2 = 52 + s := by
  generalize hn : m * 2 ^ (m'.log2 + 53 - m.log2) = n
  have hlow : 2 ^ (m'.log2 + 53) ≤ n :=
    calc 2 ^ (m'.log2 + 53) = 2 ^ m.log2 * 2 ^ (m'.log2 + 53 - m.log2) :=
          two_pow_eq_mul (by omega)
      _ ≤ m * 2 ^ (m'.log2 + 53 - m.log2) :=
          Nat.mul_le_mul_right _ (Nat.log2_self_le (by omega))
      _ = n := hn
  have hhigh : n < 2 ^ (m'.log2 + 54) :=
    calc n = m * 2 ^ (m'.log2 + 53 - m.log2) := hn.symm
      _ < 2 ^ (m.log2 + 1) * 2 ^ (m'.log2 + 53 - m.log2) :=
          Nat.mul_lt_mul_of_pos_right Nat.lt_log2_self (Nat.two_pow_pos _)
      _ = 2 ^ (m'.log2 + 54) := (two_pow_eq_mul (by omega)).symm
  have hquotient : 2 ^ 52 ≤ n / m' := by
    rw [Nat.le_div_iff_mul_le hm']
    calc 2 ^ 52 * m' ≤ 2 ^ 52 * 2 ^ (m'.log2 + 1) :=
          Nat.mul_le_mul_left _ (Nat.le_of_lt Nat.lt_log2_self)
      _ = 2 ^ (m'.log2 + 53) := (two_pow_eq_mul (by omega)).symm
      _ ≤ n := hlow
  have hquotient' : n / m' < 2 ^ 54 := by
    rw [Nat.div_lt_iff_lt_mul hm']
    calc n < 2 ^ (m'.log2 + 54) := hhigh
      _ = 2 ^ 54 * 2 ^ m'.log2 := two_pow_eq_mul (by omega)
      _ ≤ 2 ^ 54 * m' := Nat.mul_le_mul_left _ (Nat.log2_self_le (by omega))
  have hle : 52 ≤ (n / m').log2 := (Nat.le_log2 (by omega)).mpr hquotient
  have hlt : (n / m').log2 < 54 := (Nat.log2_lt (by omega)).mpr hquotient'
  exact ⟨(n / m').log2 - 52, by omega, by omega⟩

theorem divCore_eq {m m' : Nat} {e e' : Int} (hbits : m.log2 ≤ m'.log2 + 53)
    (hsmall : -1000 ≤ m.log2 + e - (m'.log2 + e')) :
    divCore Format.binary64 m e m' e' =
      (m * 2 ^ (m'.log2 + 53 - m.log2) / m', m.log2 + e - (m'.log2 + e') - 53,
        accuracyOfFraction (m * 2 ^ (m'.log2 + 53 - m.log2) % m') m') := by
  have htarget : min (e - e') (Format.binary64.targetExponent
      (totalExponent m e - totalExponent m' e')) = m.log2 + e - (m'.log2 + e') - 53 := by
    change min (e - e') (max (m.log2 + 1 + e - (m'.log2 + 1 + e') - 53) (-1074)) = _
    omega
  have hshift : (e - e' - (m.log2 + e - (m'.log2 + e') - 53)).toNat = m'.log2 + 53 - m.log2 := by
    omega
  unfold divCore
  rw [htarget]
  dsimp only
  rw [hshift, Nat.shiftLeft_eq]

theorem div_eq (sign sign' : Sign) {m m' : Nat} (e e' : Int) (hm : 0 < m) (hm' : 0 < m')
    (hbits : m.log2 ≤ m'.log2 + 53) (hsmall : -1000 ≤ m.log2 + e - (m'.log2 + e')) :
    ∃ M E h, div Format.binary64 (.finite sign m e hm) (.finite sign' m' e' hm') =
        .finite (sign / sign') M E h ∧ 2 ^ 52 ≤ M ∧ M < 2 ^ 53 ∧
      ∃ s carry : Nat, s ≤ 1 ∧ carry ≤ 1 ∧
        E = m.log2 + e - (m'.log2 + e') - 53 + s + carry ∧
        Beside (m * 2 ^ (m'.log2 + 53 - m.log2)) (m' * 2 ^ s) (M * 2 ^ carry) := by
  obtain ⟨s, hs, hlog⟩ := log2_quotient hm hm' hbits
  obtain ⟨M, E, h, hround, hlow, hhigh, carry, hcarry, hE, hM⟩ :=
    roundWithAccuracy_eq (sign / sign')
      (a := accuracyOfFraction (m * 2 ^ (m'.log2 + 53 - m.log2) % m') m')
      (t := m.log2 + e - (m'.log2 + e') - 53) hlog (by omega)
  refine ⟨M, E, h, ?_, hlow, hhigh, s, carry, hs, hcarry, hE, ?_⟩
  · unfold UnpackedFloat.div
    dsimp only
    rw [divCore_eq hbits hsmall]
    exact hround
  · rw [hM]
    exact beside_roundedMantissa _ hm' s

end Divide

section Pack

theorem finite_congr {sign sign' : Sign} {m m' : Nat} {e e' : Int} {h : 0 < m} {h' : 0 < m'}
    (hsign : sign = sign') (hm : m = m') (he : e = e') :
    UnpackedFloat.finite sign m e h = .finite sign' m' e' h' := by
  subst hsign hm he
  rfl

theorem ofBitVec_unpackSign (sign : Sign) (x : BitVec 11) (y : BitVec 52) :
    Sign.ofBitVec (unpackSign (packComponents Format.binary64 sign x y)) = sign := by
  have hbit : unpackSign (packComponents Format.binary64 sign x y) = sign.toBitVec := by
    change (sign.toBitVec ++ x ++ y).extractLsb' 63 1 = sign.toBitVec
    rw [BitVec.extractLsb'_append_eq_of_le (by decide),
      BitVec.extractLsb'_append_eq_of_le (by decide)]
    cases sign <;> rfl
  rw [hbit]
  cases sign <;> rfl

theorem toNat_lead_append {M : Nat} (hlow : 2 ^ 52 ≤ M) (hhigh : M < 2 ^ 53) :
    (1#1 ++ BitVec.ofNat 52 M).toNat = M := by
  rw [BitVec.toNat_append, BitVec.toNat_ofNat, Nat.shiftLeft_eq]
  change 1 * 2 ^ 52 ||| M % 2 ^ 52 = M
  rw [Nat.one_mul, Nat.or_comm, Nat.or_two_pow_eq_add_of_lt (Nat.mod_lt M (Nat.two_pow_pos 52))]
  omega

theorem unpack_pack (sign : Sign) {M : Nat} {E : Int} (h : 0 < M) (hlow : 2 ^ 52 ≤ M)
    (hhigh : M < 2 ^ 53) (hE : -1074 ≤ E ∧ E ≤ 971) :
    (Float.Model.pack (.finite sign M E h)).unpack = .finite sign M E h := by
  have hpack : UnpackedFloat.pack Format.binary64 (.finite sign M E h) =
      packComponents Format.binary64 sign (BitVec.ofNat 11 (E + 1023 + 52).toNat)
        (BitVec.ofNat 52 M) := by
    have hfits : ¬ 2 ^ Format.binary64.exponentBits ≤ (E + Format.binary64.exponentBias +
        Format.binary64.mantissaBitsWithoutImplicit).toNat + 1 := by
      change ¬ 2048 ≤ (E + 1023 + 52).toNat + 1
      omega
    have hnormal : M.log2 + 1 = Format.binary64.mantissaBits := by
      rw [log2_eq_of_bits hlow hhigh]
      rfl
    unfold UnpackedFloat.pack
    dsimp only
    rw [if_neg hfits, if_pos hnormal]
    rfl
  have hexponent : (BitVec.ofNat 11 (E + 1023 + 52).toNat).toNat = (E + 1023 + 52).toNat := by
    rw [BitVec.toNat_ofNat]
    exact Nat.mod_eq_of_lt (by omega)
  have hfinite : BitVec.ofNat 11 (E + 1023 + 52).toNat ≠ -1#11 := by
    intro heq
    have hall : (E + 1023 + 52).toNat = 2047 := hexponent.symm.trans (congrArg BitVec.toNat heq)
    omega
  have hnormal : BitVec.ofNat 11 (E + 1023 + 52).toNat ≠ 0#11 := by
    intro heq
    have hzero : (E + 1023 + 52).toNat = 0 := hexponent.symm.trans (congrArg BitVec.toNat heq)
    omega
  change UnpackedFloat.unpack Format.binary64 (UnpackedFloat.pack Format.binary64 _) = _
  rw [hpack]
  unfold UnpackedFloat.unpack
  dsimp only
  rw [if_neg (by rwa [unpackExponent_packComponents]),
    if_neg (by rwa [unpackExponent_packComponents])]
  refine finite_congr (ofBitVec_unpackSign sign _ _) ?_ ?_
  · rw [unpackMantissa_packComponents]
    exact toNat_lead_append hlow hhigh
  · rw [unpackExponent_packComponents, hexponent]
    change ((E + 1023 + 52).toNat : Int) - (1023 + 52) = E
    omega

end Pack

section Whole

theorem bits_scaled {m : Nat} (hm : 0 < m) (hbits : m.log2 ≤ 52) :
    2 ^ 52 ≤ m * 2 ^ (52 - m.log2) ∧ m * 2 ^ (52 - m.log2) < 2 ^ 53 := by
  constructor
  · calc 2 ^ 52 = 2 ^ m.log2 * 2 ^ (52 - m.log2) := two_pow_eq_mul (by omega)
      _ ≤ m * 2 ^ (52 - m.log2) := Nat.mul_le_mul_right _ (Nat.log2_self_le (by omega))
  · calc m * 2 ^ (52 - m.log2) < 2 ^ (m.log2 + 1) * 2 ^ (52 - m.log2) :=
          Nat.mul_lt_mul_of_pos_right Nat.lt_log2_self (Nat.two_pow_pos _)
      _ = 2 ^ 53 := (two_pow_eq_mul (by omega)).symm

theorem round_eq (sign : Sign) {m : Nat} (hbits : m.log2 ≤ 52) :
    UnpackedFloat.round Format.binary64 sign m 0 =
      roundWithAccuracy Format.binary64 sign (m * 2 ^ (52 - m.log2)) (m.log2 - 52) .exact := by
  have htarget : Format.binary64.targetExponent (totalExponent m 0) = m.log2 - 52 := by
    change max ((m.log2 : Int) + 1 + 0 - 53) (-1074) = _
    omega
  have hshift : (0 - ((m.log2 : Int) - 52)).toNat = 52 - m.log2 := by omega
  have hexponent : (0 : Int) - (52 - m.log2 : Nat) = m.log2 - 52 := by omega
  unfold UnpackedFloat.round decreaseExponent
  dsimp only
  rw [htarget, hshift, hexponent, Nat.shiftLeft_eq]

theorem unpack_toFloat {m : Nat} (hm : 0 < m) (hsmall : m < 2 ^ 53) :
    ∃ h, m.toUInt64.toFloat.toModel.unpack =
      .finite .positive (m * 2 ^ (52 - m.log2)) (m.log2 - 52) h := by
  have hbits : m.log2 ≤ 52 := by
    have := (Nat.log2_lt (by omega)).mpr hsmall
    omega
  have hword : m.toUInt64.toNat = m := Nat.mod_eq_of_lt (by omega)
  obtain ⟨hlow, hhigh⟩ := bits_scaled hm hbits
  obtain ⟨M, E, h, hround, hM, hM', carry, hcarry, hE, hsame⟩ :=
    roundWithAccuracy_eq .positive (s := 0) (t := m.log2 - 52) (a := .exact)
      (log2_eq_of_bits hlow hhigh) (by omega)
  have hcarry : carry = 0 := by
    change M * 2 ^ carry = m * 2 ^ (52 - m.log2) at hsame
    rcases Nat.le_one_iff_eq_zero_or_eq_one.mp hcarry with hzero | rfl
    · exact hzero
    · omega
  subst hcarry
  have hexact : m * 2 ^ (52 - m.log2) = M := (Nat.mul_one M ▸ hsame).symm
  have hmodel : m.toUInt64.toFloat.toModel = Float.Model.pack (.finite .positive M E h) := by
    change Float.Model.pack (UnpackedFloat.normalize Format.binary64
      ((m.toUInt64.toNat : Nat) : Int) 0 .positive) = _
    rw [hword]
    unfold UnpackedFloat.normalize
    rw [Int.compare_eq_gt.mpr (by omega)]
    dsimp only
    rw [Int.toNat_natCast, round_eq .positive hbits, hround]
  refine ⟨by omega, ?_⟩
  rw [hmodel, unpack_pack .positive h hM hM' (by omega)]
  exact finite_congr rfl hexact.symm (by omega)

end Whole

end Census.Number
