import Census.Text.Digit
import Mathlib.Algebra.Group.Nat.Defs
import Mathlib.Data.List.Forall2
import Mathlib.Data.List.Induction

/-! Numerals determine the number that they were written from, those of a fixed width and those
without leading zeros. -/
namespace Census.Text

theorem hexDigit?_digitChar : ∀ d, d < 16 → hexDigit? (Nat.digitChar d) = some d := by
  decide

theorem asciiDigit?_digitChar : ∀ d, d < 10 → asciiDigit? (Nat.digitChar d) = some d := by
  decide

theorem digitChar_injective {m n : Nat} (hm : m < 16) (hn : n < 16)
    (h : Nat.digitChar m = Nat.digitChar n) : m = n := by
  have hread := hexDigit?_digitChar m hm
  rw [h, hexDigit?_digitChar n hn] at hread
  exact (Option.some.inj hread).symm

theorem hex_injective {width m n : Nat} (hm : m < 16 ^ width) (hn : n < 16 ^ width)
    (h : hex width m = hex width n) : m = n := by
  induction width generalizing m n with
  | zero => omega
  | succ w ih =>
    unfold hex at h
    obtain ⟨hhigh, hlow⟩ := List.append_inj' h rfl
    have hquotient : m / 16 = n / 16 := by
      apply ih _ _ hhigh
      · exact Nat.div_lt_of_lt_mul (by rwa [Nat.pow_succ, Nat.mul_comm] at hm)
      · exact Nat.div_lt_of_lt_mul (by rwa [Nat.pow_succ, Nat.mul_comm] at hn)
    have hrest : m % 16 = n % 16 :=
      digitChar_injective (Nat.mod_lt m (by decide)) (Nat.mod_lt n (by decide))
        (List.head_eq_of_cons_eq hlow)
    omega

theorem flatMap_hex_injective {as bs : List UInt8}
    (h : (as.flatMap fun b => hex 2 b.toNat) = bs.flatMap fun b => hex 2 b.toNat) : as = bs := by
  induction as generalizing bs with
  | nil =>
    cases bs with
    | nil => rfl
    | cons b bs => simp [hex] at h
  | cons a as ih =>
    cases bs with
    | nil => simp [hex] at h
    | cons b bs =>
      simp only [List.flatMap_cons] at h
      obtain ⟨hhead, htail⟩ := List.append_inj h (by rw [length_hex, length_hex])
      have hbyte : a.toNat = b.toNat := hex_injective a.toNat_lt b.toNat_lt hhead
      rw [UInt8.toNat_inj.mp hbyte, ih htail]

theorem mapM_eq_some_iff {α β : Type} {f : α → Option β} {xs : List α} {ys : List β} :
    xs.mapM f = some ys ↔ List.Forall₂ (fun x y => f x = some y) xs ys := by
  induction xs generalizing ys with
  | nil => cases ys <;> simp
  | cons x xs ih =>
    cases ys <;> simp [Option.bind_eq_some_iff, ih]

theorem exists_of_mapM {α β : Type} {f : α → Option β} {xs : List α} {ys : List β}
    (h : xs.mapM f = some ys) :
    ys.length = xs.length ∧ (∀ x ∈ xs, (f x).isSome = true) ∧ ∀ y ∈ ys, ∃ x, f x = some y := by
  rw [mapM_eq_some_iff] at h
  induction h with
  | nil => simp
  | cons hx _ ih =>
    obtain ⟨hlength, hread, hvalue⟩ := ih
    refine ⟨by simp [hlength], ?_, ?_⟩
    · exact List.forall_mem_cons.mpr ⟨by simp [hx], hread⟩
    · exact List.forall_mem_cons.mpr ⟨⟨_, hx⟩, hvalue⟩

theorem mapM_map_eq_some {α β : Type} {f : β → Option α} {write : α → β} {xs : List α}
    (h : ∀ x ∈ xs, f (write x) = some x) : (xs.map write).mapM f = some xs := by
  rw [mapM_eq_some_iff, List.forall₂_map_left_iff]
  exact List.forall₂_same.mpr h

theorem mapM_hexDigit?_shortHex (n : Nat) : ∃ ds, (shortHex n).mapM hexDigit? = some ds ∧
    ds.foldl (fun n d => 16 * n + d) 0 = n := by
  induction n using Nat.strongRecOn with
  | ind n ih =>
    unfold shortHex at ih ⊢
    rw [Nat.toDigits_eq_if (by decide)]
    split
    · rename_i hn
      exact ⟨[n], by simp [hexDigit?_digitChar n hn], by simp⟩
    · rename_i hn
      obtain ⟨ds, hdigits, hvalue⟩ := ih (n / 16) (by omega)
      refine ⟨ds ++ [n % 16], ?_, ?_⟩
      · rw [List.mapM_append, hdigits]
        simp [hexDigit?_digitChar (n % 16) (Nat.mod_lt n (by decide))]
      · rw [List.foldl_append, hvalue]
        simp only [List.foldl_cons, List.foldl_nil]
        omega

theorem isSome_hexDigit?_of_mem_shortHex {n : Nat} {c : Char} (h : c ∈ shortHex n) :
    (hexDigit? c).isSome = true := by
  obtain ⟨ds, hdigits, -⟩ := mapM_hexDigit?_shortHex n
  exact (exists_of_mapM hdigits).2.1 c h

theorem isSome_hexDigit?_of_mem_hex {width n : Nat} {c : Char} (h : c ∈ hex width n) :
    (hexDigit? c).isSome = true := by
  induction width generalizing n with
  | zero => cases h
  | succ width ih =>
    unfold hex at h
    rcases List.mem_append.mp h with h | h
    · exact ih h
    · rw [List.mem_singleton.mp h, hexDigit?_digitChar _ (Nat.mod_lt n (by decide))]
      rfl

theorem eq_map_of_forall₂ {α β : Type} {R : α → β → Prop} {g : β → α} {xs : List α} {ys : List β}
    (hR : ∀ x y, R x y → x = g y) (h : List.Forall₂ R xs ys) : xs = ys.map g := by
  rw [← List.forall₂_eq_eq_eq, List.forall₂_map_right_iff]
  exact h.imp hR

theorem hexDigit?_bounds {c : Char} {d : Nat} (h : hexDigit? c = some d) :
    d < 16 ∧ 0x20 < c.toNat ∧ c.toNat < 0x7F := by
  unfold hexDigit? at h
  simp only [Char.le_def, UInt32.le_iff_toNat_le] at h
  split at h
  · rename_i hc
    have hd := Option.some.inj h
    have hlow : 48 ≤ c.toNat := hc.1
    have hhigh : c.toNat ≤ 57 := hc.2
    omega
  split at h
  · rename_i hc
    have hd := Option.some.inj h
    have hlow : 97 ≤ c.toNat := hc.1
    have hhigh : c.toNat ≤ 102 := hc.2
    omega
  split at h
  · rename_i hc
    have hd := Option.some.inj h
    have hlow : 65 ≤ c.toNat := hc.1
    have hhigh : c.toNat ≤ 70 := hc.2
    omega
  · cases h

theorem isSome_hexDigit?_of_isDigit {c : Char} (h : c.isDigit = true) :
    (hexDigit? c).isSome = true := by
  simp only [Char.isDigit, ge_iff_le, Bool.and_eq_true, decide_eq_true_eq] at h
  unfold hexDigit?
  rw [if_pos (show '0' ≤ c ∧ c ≤ '9' from h)]
  rfl

theorem hexDigit?_eq_some_iff {c : Char} {d : Nat} :
    hexDigit? c = some d ↔ d < 16 ∧ c.toLower = Nat.digitChar d := by
  have hascii : ∀ n < 128, ∀ d < 16, hexDigit? (Char.ofNat n) = some d ↔
      (Char.ofNat n).toLower = Nat.digitChar d := by
    decide +kernel
  have hchar : Char.ofNat c.toNat = c := Char.ofNat_toNat c
  constructor
  · intro h
    obtain ⟨hd, -, hc⟩ := hexDigit?_bounds h
    rw [← hchar] at h ⊢
    exact ⟨hd, (hascii _ (by omega) d hd).mp h⟩
  · rintro ⟨hd, hc⟩
    by_cases hupper : c.val ≥ 'A'.val ∧ c.val ≤ 'Z'.val
    · have hlt : c.toNat ≤ 90 := UInt32.le_iff_toNat_le.mp hupper.2
      rw [← hchar] at hc ⊢
      exact (hascii _ (by omega) d hd).mpr hc
    · have hsame : c.toLower = c := dif_neg hupper
      rw [← hsame, hc, hexDigit?_digitChar d hd]

/-- A numeral in base sixteen is that of a number in as many digits, but for the case. -/
theorem mapM_hexDigit?_iff {cs : List Char} {n : Nat} :
    (∃ ds, cs.mapM hexDigit? = some ds ∧ ds.foldl (fun n d => 16 * n + d) 0 = n) ↔
      n < 16 ^ cs.length ∧ cs.map Char.toLower = hex cs.length n := by
  induction cs using List.reverseRecOn generalizing n with
  | nil => simp [hex, eq_comm]
  | append_singleton cs c ih =>
    have hdigits : (∃ ds, (cs ++ [c]).mapM hexDigit? = some ds ∧
        ds.foldl (fun n d => 16 * n + d) 0 = n) ↔
        ∃ m d, (m < 16 ^ cs.length ∧ cs.map Char.toLower = hex cs.length m) ∧
          (d < 16 ∧ c.toLower = Nat.digitChar d) ∧ 16 * m + d = n := by
      simp only [← ih, ← hexDigit?_eq_some_iff]
      rw [List.mapM_append]
      constructor
      · rintro ⟨ds, hread, rfl⟩
        simp only [List.mapM_cons, List.mapM_nil, Option.bind_eq_bind, Option.bind_eq_some_iff,
          Option.pure_def, Option.some.injEq] at hread
        obtain ⟨ds, hds, es, ⟨d, hd, es, rfl, rfl⟩, rfl⟩ := hread
        exact ⟨_, d, ⟨ds, hds, rfl⟩, hd, by simp⟩
      · rintro ⟨m, d, ⟨ds, hds, rfl⟩, hd, rfl⟩
        exact ⟨ds ++ [d], by simp [hds, hd], by simp⟩
    rw [hdigits, List.length_append, List.length_singleton, Nat.pow_succ, List.map_append]
    constructor
    · rintro ⟨m, d, ⟨hm, hcs⟩, ⟨hd, hc⟩, rfl⟩
      have hquotient : (16 * m + d) / 16 = m := by omega
      have hrest : (16 * m + d) % 16 = d := by omega
      refine ⟨by omega, ?_⟩
      rw [hex, hquotient, hrest, hcs, List.map_singleton, hc]
    · rintro ⟨hn, htext⟩
      obtain ⟨hcs, hc⟩ := List.append_inj' htext rfl
      have hrest : n % 16 < 16 := Nat.mod_lt n (by decide)
      exact ⟨n / 16, n % 16, ⟨by omega, hcs⟩, ⟨hrest, List.head_eq_of_cons_eq hc⟩,
        Nat.div_add_mod n 16⟩

theorem asciiDigit?_eq_some {c : Char} {d : Nat} (h : asciiDigit? c = some d) :
    d < 10 ∧ Nat.digitChar d = c := by
  unfold asciiDigit? at h
  split at h
  · rename_i hc
    have hd := Option.some.inj h
    have hlow : 48 ≤ c.toNat := UInt32.le_iff_toNat_le.mp hc.1
    have hhigh : c.toNat ≤ 57 := UInt32.le_iff_toNat_le.mp hc.2
    have hchar : ∀ d < 10, Nat.digitChar d = Char.ofNat (d + 48) := by decide
    refine ⟨by omega, ?_⟩
    rw [hchar d (by omega), ← hd, Nat.sub_add_cancel hlow, Char.ofNat_toNat]
  · cases h

theorem toDigits_foldl {ds : List Nat} (hsmall : ∀ d ∈ ds, d < 10) {n : Nat} (hn : 0 < n) :
    Nat.toDigits 10 (ds.foldl (fun n d => 10 * n + d) n) =
      Nat.toDigits 10 n ++ ds.map Nat.digitChar := by
  induction ds generalizing n with
  | nil => simp
  | cons d ds ih =>
    obtain ⟨hd, hds⟩ := List.forall_mem_cons.mp hsmall
    rw [List.foldl_cons, ih hds (by omega), ← Nat.toDigits_append_toDigits (by decide) hn hd,
      Nat.toDigits_of_lt_base hd, List.map_cons, List.append_assoc, List.singleton_append]

theorem toDigits_ofDigits {ds : List Nat} (hsmall : ∀ d ∈ ds, d < 10) (hsome : ds ≠ [])
    (hzero : ds.head? = some 0 → ds.length ≤ 1) :
    Nat.toDigits 10 (ofDigits ds) = ds.map Nat.digitChar := by
  obtain ⟨d, rest, rfl⟩ := List.exists_cons_of_ne_nil hsome
  obtain ⟨hd, hrest⟩ := List.forall_mem_cons.mp hsmall
  have hvalue : ofDigits (d :: rest) = rest.foldl (fun n d => 10 * n + d) d := by simp [ofDigits]
  rw [hvalue]
  rcases Nat.eq_zero_or_pos d with rfl | hpos
  · obtain rfl : rest = [] := by simpa using hzero rfl
    rfl
  · rw [toDigits_foldl hrest hpos, Nat.toDigits_of_lt_base hd]
    rfl

end Census.Text
