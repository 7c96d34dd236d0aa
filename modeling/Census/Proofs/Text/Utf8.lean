import Census.Text.Utf8

/-! Text written in UTF-8 is read back as it was, so its bytes determine it. -/
namespace Census.Text.Utf8

theorem toNat_toUInt8 {n : Nat} (h : n < 256) : n.toUInt8.toNat = n := by
  rw [Nat.toUInt8_eq, UInt8.toNat_ofNat', Nat.mod_eq_of_lt h]

theorem continuations_last {acc seen low high n : Nat} (hlow : low ≤ n) (hhigh : n ≤ high)
    (h : n < 256) (bs : List UInt8) :
    continuations acc seen low high 0 (n.toUInt8 :: bs) =
      .ok (acc * 64 + (n - 0x80), seen + 1) := by
  simp [continuations, toNat_toUInt8 h, hlow, hhigh]

theorem continuations_more {acc seen low high more n : Nat} (hlow : low ≤ n) (hhigh : n ≤ high)
    (h : n < 256) (bs : List UInt8) :
    continuations acc seen low high (more + 1) (n.toUInt8 :: bs) =
      continuations (acc * 64 + (n - 0x80)) (seen + 1) 0x80 0xBF more bs := by
  simp [continuations, toNat_toUInt8 h, hlow, hhigh]

theorem lead_two {n : Nat} (hlow : 0x80 ≤ n) (hhigh : n < 0x800) :
    lead (0xC0 + n / 64).toUInt8 = .multi (n / 64) 0x80 0xBF 0 := by
  unfold lead
  rw [toNat_toUInt8 (by omega)]
  dsimp only
  rw [if_neg (by omega), if_neg (by omega), if_pos (by omega)]
  simp

/-- The second byte of three lies in the range that the first announces: short forms and halves of
pairs are left out of it. -/
theorem lead_three {n : Nat} (hlow : 0x800 ≤ n) (hhigh : n < 0x10000)
    (hunit : n < 0xD800 ∨ 0xDFFF < n) :
    ∃ low high, lead (0xE0 + n / 4096).toUInt8 = .multi (n / 4096) low high 1 ∧
      low ≤ 0x80 + n / 64 % 64 ∧ 0x80 + n / 64 % 64 ≤ high := by
  unfold lead
  rw [toNat_toUInt8 (by omega)]
  dsimp only
  rw [if_neg (by omega), if_neg (by omega), if_neg (by omega)]
  split
  · rename_i h
    exact ⟨_, _, by rw [show n / 4096 = 0 by omega], by omega, by omega⟩
  split
  · rename_i h
    exact ⟨_, _, by rw [show n / 4096 = 0xD by omega], by omega, by omega⟩
  rw [if_pos (by omega)]
  exact ⟨_, _, by rw [Nat.add_sub_cancel_left], by omega, by omega⟩

theorem lead_four {n : Nat} (hlow : 0x10000 ≤ n) (hhigh : n < 0x110000) :
    ∃ low high, lead (0xF0 + n / 262144).toUInt8 = .multi (n / 262144) low high 2 ∧
      low ≤ 0x80 + n / 4096 % 64 ∧ 0x80 + n / 4096 % 64 ≤ high := by
  unfold lead
  rw [toNat_toUInt8 (by omega)]
  dsimp only
  rw [if_neg (by omega), if_neg (by omega), if_neg (by omega), if_neg (by omega),
    if_neg (by omega), if_neg (by omega)]
  split
  · rename_i h
    exact ⟨_, _, by rw [show n / 262144 = 0 by omega], by omega, by omega⟩
  split
  · exact ⟨_, _, by rw [Nat.add_sub_cancel_left], by omega, by omega⟩
  rw [if_pos (by omega)]
  exact ⟨_, _, by rw [show n / 262144 = 4 by omega], by omega, by omega⟩

theorem head_encodeChar (c : Char) (rest : List UInt8) :
    ∃ b bs, encodeChar c = b :: bs ∧ head b (bs ++ rest) = .ok (c, bs.length + 1) := by
  have hvalid : c.toNat < 0xD800 ∨ 0xDFFF < c.toNat ∧ c.toNat < 0x110000 := c.valid
  have hchar : ∀ n, n = c.toNat → Char.ofNat n = c := by
    intro n hn
    rw [hn, Char.ofNat_toNat]
  unfold encodeChar
  dsimp only
  split
  · rename_i h
    refine ⟨_, _, rfl, ?_⟩
    simp [head, lead, toNat_toUInt8 (show c.toNat < 256 by omega), h, hchar]
  split
  · rename_i h1 h2
    refine ⟨_, _, rfl, ?_⟩
    unfold head
    rw [lead_two (by omega) h2]
    dsimp only [List.cons_append, List.nil_append]
    rw [continuations_last (by omega) (by omega) (by omega)]
    simp only [Except.map]
    rw [hchar _ (by omega)]
    rfl
  split
  · rename_i h1 h2 h3
    obtain ⟨low, high, hlead, hlow, hhigh⟩ := lead_three (by omega) h3 (by omega)
    refine ⟨_, _, rfl, ?_⟩
    unfold head
    rw [hlead]
    dsimp only [List.cons_append, List.nil_append]
    rw [continuations_more hlow hhigh (by omega),
      continuations_last (by omega) (by omega) (by omega)]
    simp only [Except.map]
    rw [hchar _ (by omega)]
    rfl
  · rename_i h1 h2 h3
    obtain ⟨low, high, hlead, hlow, hhigh⟩ := lead_four (n := c.toNat) (by omega) (by omega)
    refine ⟨_, _, rfl, ?_⟩
    unfold head
    rw [hlead]
    dsimp only [List.cons_append, List.nil_append]
    rw [continuations_more hlow hhigh (by omega),
      continuations_more (by omega) (by omega) (by omega),
      continuations_last (by omega) (by omega) (by omega)]
    simp only [Except.map]
    rw [hchar _ (by omega)]
    rfl

theorem decodeFrom_skip (position : Nat) (bs rest : List UInt8) :
    decodeFrom position bs.length (bs ++ rest) = decodeFrom (position + bs.length) 0 rest := by
  induction bs generalizing position with
  | nil => rfl
  | cons b bs ih =>
    simp only [List.length_cons, List.cons_append, decodeFrom]
    rw [ih, Nat.add_assoc, Nat.add_comm 1]

theorem decodeFrom_encode (position : Nat) (cs : List Char) :
    decodeFrom position 0 (encode cs) = .ok cs := by
  induction cs generalizing position with
  | nil => rfl
  | cons c cs ih =>
    obtain ⟨b, bs, hbytes, hhead⟩ := head_encodeChar c (encode cs)
    have hencode : encode (c :: cs) = b :: (bs ++ encode cs) := by
      rw [← List.cons_append, ← hbytes]
      rfl
    rw [hencode]
    unfold decodeFrom
    rw [hhead]
    dsimp only
    rw [Nat.add_sub_cancel, decodeFrom_skip, ih]
    rfl

theorem decode_encode (cs : List Char) : decode (encode cs) = .ok cs :=
  decodeFrom_encode 0 cs

theorem encode_injective {cs ds : List Char} (h : encode cs = encode ds) : cs = ds := by
  have hread := decode_encode cs
  rw [h, decode_encode] at hread
  exact (Except.ok.inj hread).symm

end Census.Text.Utf8
