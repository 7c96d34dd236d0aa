import Census.Filters.Key
import Census.Proofs.Filters.Condition
import Census.Proofs.Json.Text
import Census.Proofs.Text.Utf8
import Census.Proofs.Time.Written

/-! Keys of filters. Filters have keys where a UTC clock can show their bounds, and two keys are one
exactly where the kinds are one and the filters agree, as far as the digest tells their encodings
apart. -/
namespace Census

open Time

namespace Time.Moment

/-- A UTC clock can show the instant. -/
def ShowsInUtc (m : Moment) : Prop :=
  firstReading ≤ m.instant ∧ m.instant ≤ lastReading

theorem toUtc?_eq (m : Moment) (h : m.ShowsInUtc) :
    ∃ u, m.toUtc? = some u ∧ u.reading = m.instant ∧ u.offset = m.offset.map fun _ => 0 := by
  unfold ShowsInUtc at h
  unfold toUtc?
  cases hoffset : m.offset with
  | none =>
    refine ⟨m, rfl, ?_, hoffset⟩
    unfold instant
    rw [hoffset]
    simp
  | some o =>
    dsimp only
    unfold utc? make?
    rw [dif_pos h]
    dsimp only
    rw [dif_pos (by decide)]
    exact ⟨_, rfl, rfl, rfl⟩

theorem showsInUtc_of_toUtc? {m u : Moment} (h : m.toUtc? = some u) : m.ShowsInUtc := by
  unfold toUtc? at h
  unfold ShowsInUtc
  cases hoffset : m.offset with
  | none =>
    unfold instant
    rw [hoffset]
    simpa using m.inRange
  | some o =>
    rw [hoffset] at h
    dsimp only at h
    unfold utc? make? at h
    split at h
    · assumption
    · cases h

theorem eq_iff {m n : Moment} : m = n ↔ m.reading = n.reading ∧ m.offset = n.offset := by
  constructor
  · rintro rfl
    exact ⟨rfl, rfl⟩
  · obtain ⟨reading, offset, hrange, hoffset⟩ := m
    obtain ⟨reading', offset', hrange', hoffset'⟩ := n
    rintro ⟨rfl, rfl⟩
    rfl

theorem agrees_iff {m n u v : Moment} (hm : m.ShowsInUtc) (hn : n.ShowsInUtc)
    (hu : m.toUtc? = some u) (hv : n.toUtc? = some v) : m.agrees n = true ↔ u = v := by
  obtain ⟨u', hu', hreading, hoffset⟩ := m.toUtc?_eq hm
  obtain ⟨v', hv', hreading', hoffset'⟩ := n.toUtc?_eq hn
  obtain rfl : u' = u := Option.some.inj (hu'.symm.trans hu)
  obtain rfl : v' = v := Option.some.inj (hv'.symm.trans hv)
  rw [eq_iff, hreading, hreading', hoffset, hoffset']
  unfold agrees instant? instant
  cases m.offset <;> cases n.offset <;> simp

end Time.Moment

namespace Filters

def HasInstant (m : Option Moment) : Prop :=
  ∀ t ∈ m, t.ShowsInUtc

theorem hasInstant_none : HasInstant none :=
  fun t ht => absurd ht (Option.not_mem_none t)

theorem hasInstant_some {m : Moment} (h : m.ShowsInUtc) : HasInstant (some m) := by
  intro t ht
  rwa [← Option.some.inj ht]

/-- Where the bounds have known offsets, a UTC clock can show them. -/
def HasKey (f : Filters) : Prop :=
  HasInstant f.start ∧ HasInstant f.stop

theorem write_ne_empty (m : Moment) : String.ofList (m.write .always) ≠ "" := by
  intro hempty
  have hread := m.readParts?_write (show Fraction.always ≠ .never by decide)
  rw [show m.write .always = [] from String.ofList_injective hempty] at hread
  cases hread

theorem canonicalMoment_some (m : Moment) :
    canonicalMoment (some m) = match m.toUtc? with
      | some u => .ok (String.ofList (u.write .always))
      | none => .error .dateRange := rfl

theorem canonicalMoment_cases {m : Option Moment} (h : HasInstant m) :
    (m = none ∧ canonicalMoment m = .ok "") ∨
      ∃ t u, m = some t ∧ t.ShowsInUtc ∧ t.toUtc? = some u ∧
        canonicalMoment m = .ok (String.ofList (u.write .always)) := by
  cases m with
  | none => exact .inl ⟨rfl, rfl⟩
  | some t =>
    obtain ⟨u, hu, -, -⟩ := t.toUtc?_eq (h t rfl)
    refine .inr ⟨t, u, rfl, h t rfl, hu, ?_⟩
    rw [canonicalMoment_some, hu]

theorem canonicalMoment_inj {m n : Option Moment} (hm : HasInstant m) (hn : HasInstant n)
    {s t : String} (hs : canonicalMoment m = .ok s) (ht : canonicalMoment n = .ok t) :
    s = t ↔ momentsAgree m n = true := by
  rcases canonicalMoment_cases hm with ⟨rfl, hs'⟩ | ⟨m, u, rfl, hm, hu, hs'⟩ <;>
    rcases canonicalMoment_cases hn with ⟨rfl, ht'⟩ | ⟨n, v, rfl, hn, hv, ht'⟩ <;>
    obtain rfl := Except.ok.inj (hs.symm.trans hs') <;>
    obtain rfl := Except.ok.inj (ht.symm.trans ht')
  · exact ⟨fun _ => rfl, fun _ => rfl⟩
  · exact ⟨fun h => absurd h.symm (write_ne_empty v), nofun⟩
  · exact ⟨fun h => absurd h (write_ne_empty u), nofun⟩
  -- two texts agree as the moments in UTC do, or as the readings of clocks of unknown offset
  · change _ ↔ m.agrees n = true
    rw [Moment.agrees_iff hm hn hu hv]
    constructor
    · intro h
      exact Moment.write_injective (by decide) (String.ofList_injective h)
    · rintro rfl
      rfl

theorem exists_canonical {f : Filters} (h : f.HasKey) :
    ∃ start stop, canonicalMoment f.start = .ok start ∧ canonicalMoment f.stop = .ok stop ∧
      f.canonical = .ok [f.country, f.city, f.service, f.version, start, stop] := by
  have hok : ∀ {m : Option Moment}, HasInstant m → ∃ s, canonicalMoment m = .ok s := by
    intro m hm
    rcases canonicalMoment_cases hm with ⟨-, hs⟩ | ⟨_, _, -, -, -, hs⟩
    · exact ⟨_, hs⟩
    · exact ⟨_, hs⟩
  obtain ⟨start, hstart⟩ := hok h.1
  obtain ⟨stop, hstop⟩ := hok h.2
  refine ⟨start, stop, hstart, hstop, ?_⟩
  unfold canonical
  rw [hstart, hstop]
  rfl

theorem hasInstant_of_canonicalMoment {m : Option Moment} {s : String}
    (h : canonicalMoment m = .ok s) : HasInstant m := by
  cases m with
  | none => exact hasInstant_none
  | some m =>
    rw [canonicalMoment_some] at h
    cases hu : m.toUtc? with
    | none =>
      rw [hu] at h
      cases h
    | some u => exact hasInstant_some (Moment.showsInUtc_of_toUtc? hu)

theorem hasKey_of_key {f : Filters} {kind : QueryKind} {k : String} (h : f.key kind = .ok k) :
    f.HasKey := by
  unfold key canonical at h
  cases hstart : canonicalMoment f.start with
  | error e =>
    rw [hstart] at h
    cases h
  | ok start =>
    cases hstop : canonicalMoment f.stop with
    | error e =>
      rw [hstart, hstop] at h
      cases h
    | ok stop =>
      exact ⟨hasInstant_of_canonicalMoment hstart, hasInstant_of_canonicalMoment hstop⟩

theorem canonical_inj {a b : Filters} (ha : a.HasKey) (hb : b.HasKey) {s t : List String}
    (hs : a.canonical = .ok s) (ht : b.canonical = .ok t) : s = t ↔ a.agrees b = true := by
  obtain ⟨start, stop, hstart, hstop, hs'⟩ := exists_canonical ha
  obtain ⟨start', stop', hstart', hstop', ht'⟩ := exists_canonical hb
  obtain rfl := Except.ok.inj (hs.symm.trans hs')
  obtain rfl := Except.ok.inj (ht.symm.trans ht')
  unfold agrees
  simp only [List.cons.injEq, and_true, Bool.and_eq_true, beq_iff_eq,
    canonicalMoment_inj ha.1 hb.1 hstart hstart', canonicalMoment_inj ha.2 hb.2 hstop hstop']
  constructor
  · rintro ⟨hcountry, hcity, hservice, hversion, hstart, hstop⟩
    exact ⟨⟨⟨⟨⟨hstart, hstop⟩, hcountry⟩, hcity⟩, hversion⟩, hservice⟩
  · rintro ⟨⟨⟨⟨⟨hstart, hstop⟩, hcountry⟩, hcity⟩, hversion⟩, hservice⟩
    exact ⟨hcountry, hcity, hservice, hversion, hstart, hstop⟩

theorem encoding_injective {s t : List String} (h : encoding s = encoding t) : s = t :=
  Json.write_strings_injective (Text.Utf8.encode_injective h)

theorem hexText_injective {as bs : List UInt8} (h : hexText as = hexText bs) : as = bs :=
  Text.flatMap_hex_injective (String.ofList_injective h)

theorem prefix_inj {j k : QueryKind} {s t : String} :
    j.name ++ ":" ++ s = k.name ++ ":" ++ t ↔ j = k ∧ s = t := by
  constructor
  · intro h
    have hchars := congrArg String.toList h
    cases j <;> cases k <;> simp [QueryKind.name] at hchars
    · exact ⟨rfl, String.toList_inj.mp hchars⟩
    · exact ⟨rfl, String.toList_inj.mp hchars⟩
  · rintro ⟨rfl, rfl⟩
    rfl

/-- The digest tells the encodings of two filters apart. -/
def NoCollision (a b : Filters) : Prop :=
  ∀ s t, a.canonical = .ok s → b.canonical = .ok t →
    Hash.Sha256.digest (encoding s) = Hash.Sha256.digest (encoding t) → encoding s = encoding t

theorem NoCollision.symm {a b : Filters} (h : NoCollision a b) : NoCollision b a :=
  fun s t hs ht hdigest => (h t s ht hs hdigest.symm).symm

theorem exists_key {f : Filters} (h : f.HasKey) (kind : QueryKind) : ∃ k, f.key kind = .ok k := by
  obtain ⟨start, stop, -, -, hcanonical⟩ := exists_canonical h
  unfold key
  rw [hcanonical]
  exact ⟨_, rfl⟩

theorem key_inj {a b : Filters} (ha : a.HasKey) (hb : b.HasKey) (hdigest : NoCollision a b)
    {j k : QueryKind} {s t : String} (hs : a.key j = .ok s) (ht : b.key k = .ok t) :
    s = t ↔ j = k ∧ a.agrees b = true := by
  obtain ⟨_, _, -, -, hcanonical⟩ := exists_canonical ha
  obtain ⟨_, _, -, -, hcanonical'⟩ := exists_canonical hb
  unfold key at hs ht
  rw [hcanonical] at hs
  rw [hcanonical'] at ht
  obtain rfl := Except.ok.inj hs
  obtain rfl := Except.ok.inj ht
  rw [prefix_inj, ← canonical_inj ha hb hcanonical hcanonical']
  constructor
  · rintro ⟨hkind, hhex⟩
    exact ⟨hkind, encoding_injective (hdigest _ _ hcanonical hcanonical' (hexText_injective hhex))⟩
  · rintro ⟨hkind, htexts⟩
    rw [htexts]
    exact ⟨hkind, rfl⟩

/-- Filters that UTC can show have keys. Two keys are one exactly where the kinds are one and the
filters agree, and that is where the conditions are one and bind agreeing values. -/
theorem key_eq_iff {a b : Filters} (ha : a.HasKey) (hb : b.HasKey) (hdigest : NoCollision a b)
    (j k : QueryKind) :
    (∃ s t, a.key j = .ok s ∧ b.key k = .ok t ∧ (s = t ↔ j = k ∧ a.agrees b = true)) ∧
      (a.agrees b = true ↔
        a.condition = b.condition ∧ SameParameters a.parameters b.parameters) := by
  obtain ⟨s, hs⟩ := exists_key ha j
  obtain ⟨t, ht⟩ := exists_key hb k
  exact ⟨⟨s, t, hs, ht, key_inj ha hb hdigest hs ht⟩, agrees_iff_condition⟩

def sinceAhead : Filters :=
  { empty with start := some ⟨3600 * second, some (3600 * second), by decide, by decide⟩ }

def sinceBehind : Filters :=
  { empty with start := some ⟨-3600 * second, some (-3600 * second), by decide, by decide⟩ }

theorem key_sinceAhead : ∃ s, sinceAhead.key .page = .ok s ∧ sinceBehind.key .page = .ok s := by
  have hahead : sinceAhead.HasKey :=
    ⟨hasInstant_some ⟨by decide, by decide⟩, hasInstant_none⟩
  have hbehind : sinceBehind.HasKey :=
    ⟨hasInstant_some ⟨by decide, by decide⟩, hasInstant_none⟩
  have hagrees : sinceAhead.agrees sinceBehind = true := by decide +kernel
  have hcollision : NoCollision sinceAhead sinceBehind := by
    intro s t hs ht _
    rw [(canonical_inj hahead hbehind hs ht).mpr hagrees]
  obtain ⟨⟨s, t, hs, ht, hkeys⟩, -⟩ := key_eq_iff hahead hbehind hcollision .page .page
  obtain rfl := hkeys.mpr ⟨rfl, hagrees⟩
  exact ⟨s, hs, ht⟩

end Filters

end Census
