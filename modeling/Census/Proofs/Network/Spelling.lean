import Census.Proofs.Network.Address

/-! The texts that denote an address, told without reading them. A text is read as an address
exactly if it denotes it, so all texts that denote one address are read alike. -/
namespace Census.Network.Address

open Census.Text

structure WritesGroup (part : List Char) (g : Nat) : Prop where
  isSome : part ≠ []
  isShort : part.length ≤ 4
  fits : g < 16 ^ part.length
  digits : part.map Char.toLower = hex part.length g

/-- Parts between colons, and the groups that they write. The last part may be four octets, which
stand for two groups. -/
inductive WritesGroups : List (List Char) → List Nat → Prop
  | plain {parts : List (List Char)} {groups : List Nat}
      (h : List.Forall₂ WritesGroup parts groups) : WritesGroups parts groups
  | dotted {parts : List (List Char)} {groups : List Nat} {a b c d : Nat}
      (h : List.Forall₂ WritesGroup parts groups) (hsmall : ∀ o ∈ [a, b, c, d], o < 256) :
      WritesGroups (parts ++ [writeOctets [a, b, c, d]]) (groups ++ [256 * a + b, 256 * c + d])

/-- Eight groups between colons, or fewer around a gap that stands for zeros. -/
inductive DenotesGroups : List Char → List Nat → Prop
  | whole {parts : List (List Char)} {groups : List Nat} (h : WritesGroups parts groups)
      (hlength : groups.length = 8) : DenotesGroups ([':'].intercalate parts) groups
  | gap {before after : List (List Char)} {front back : List Nat}
      (hfront : List.Forall₂ WritesGroup before front) (hback : WritesGroups after back)
      (hroom : front.length + back.length < 8) :
      DenotesGroups ([':'].intercalate before ++ ':' :: ':' :: [':'].intercalate after)
        (front ++ List.replicate (8 - (front.length + back.length)) 0 ++ back)

/-- Four octets, or eight groups and perhaps a zone. -/
inductive Denotes : List Char → Address → Prop
  | v4 {octets : List Nat} (hlength : octets.length = 4) (hsmall : ∀ o ∈ octets, o < 256) :
      Denotes (writeOctets octets) (.v4 octets)
  | v6 {body : List Char} {groups : List Nat} (h : DenotesGroups body groups) :
      Denotes body (.v6 groups none)
  | zoned {body zone : List Char} {groups : List Nat} (h : DenotesGroups body groups)
      (hsome : zone ≠ []) (hzone : '%' ∉ zone) (hslash : '/' ∉ zone) :
      Denotes (body ++ '%' :: zone) (.v6 groups (some zone))

section Numerals

theorem group?_eq_some_iff {part : List Char} {g : Nat} :
    group? part = some g ↔ WritesGroup part g := by
  have hread : group? part = some g ↔ ¬(part.isEmpty ∨ 4 < part.length) ∧
      ∃ ds, part.mapM hexDigit? = some ds ∧ ds.foldl (fun n d => 16 * n + d) 0 = g := by
    unfold group?
    split
    · rename_i hlength
      exact ⟨nofun, fun h => absurd hlength h.1⟩
    · rename_i hlength
      simp only [hlength, not_false_eq_true, true_and, Option.bind_eq_bind,
        Option.bind_eq_some_iff, Option.pure_def, Option.some.injEq]
  rw [hread, mapM_hexDigit?_iff, List.isEmpty_iff]
  constructor
  · rintro ⟨hlength, hfits, hdigits⟩
    exact ⟨fun hnone => hlength (.inl hnone), by omega, hfits, hdigits⟩
  · rintro ⟨hsome, hshort, hfits, hdigits⟩
    exact ⟨by simp [hsome]; omega, hfits, hdigits⟩

theorem octet?_eq_some_iff {part : List Char} {n : Nat} :
    octet? part = some n ↔ n < 256 ∧ part = Nat.toDigits 10 n := by
  constructor
  · intro h
    refine ⟨(octet?_eq_some h).1, ?_⟩
    unfold octet? at h
    obtain ⟨ds, hds, h⟩ := Option.bind_eq_some_iff.mp h
    have hdigits := mapM_eq_some_iff.mp hds
    have hpart : part = ds.map Nat.digitChar :=
      eq_map_of_forall₂ (fun _ _ hd => (asciiDigit?_eq_some hd).2.symm) hdigits
    have hsmall : ∀ d ∈ ds, d < 10 := by
      intro d hd
      obtain ⟨c, hc⟩ := (exists_of_mapM hds).2.2 d hd
      exact (asciiDigit?_eq_some hc).1
    split at h
    · cases h
    · rename_i hform
      dsimp only at h
      split at h
      · rw [← Option.some.inj h]
        simp only [List.isEmpty_iff, not_or, not_and, Nat.not_lt] at hform
        rw [hpart, toDigits_ofDigits hsmall hform.1 hform.2.2]
      · cases h
  · rintro ⟨hn, rfl⟩
    exact octet?_toDigits n hn

theorem octets?_eq_some_iff {cs : List Char} {octets : List Nat} :
    octets? cs = some octets ↔
      octets.length = 4 ∧ (∀ o ∈ octets, o < 256) ∧ cs = writeOctets octets := by
  constructor
  · intro h
    refine ⟨(octets?_eq_some h).1, (octets?_eq_some h).2.1, ?_⟩
    unfold octets? at h
    dsimp only at h
    split at h
    · cases h
    · have hparts : cs.splitOn '.' = octets.map (Nat.toDigits 10) :=
        eq_map_of_forall₂ (fun _ _ ho => (octet?_eq_some_iff.mp ho).2) (mapM_eq_some_iff.mp h)
      rw [writeOctets_eq, ← hparts, List.intercalate_splitOn]
  · rintro ⟨hlength, hsmall, rfl⟩
    exact octets?_writeOctets hlength hsmall

end Numerals

section Groups

inductive Expands : List (List Char) → List (List Char) → Prop
  | plain {parts : List (List Char)} (h : ∀ part ∈ parts.getLast?, '.' ∉ part) :
      Expands parts parts
  | dotted {parts : List (List Char)} {a b c d : Nat} (hsmall : ∀ o ∈ [a, b, c, d], o < 256) :
      Expands (parts ++ [writeOctets [a, b, c, d]])
        (parts ++ [shortHex (256 * a + b), shortHex (256 * c + d)])

theorem expands_concat_iff {parts texts : List (List Char)} {last : List Char} :
    Expands (parts ++ [last]) texts ↔ ('.' ∉ last ∧ texts = parts ++ [last]) ∨
      ∃ a b c d, octets? last = some [a, b, c, d] ∧
        texts = parts ++ [shortHex (256 * a + b), shortHex (256 * c + d)] := by
  constructor
  · generalize htexts : parts ++ [last] = whole
    intro h
    cases h with
    | plain hdot =>
      subst htexts
      exact .inl ⟨hdot last (by simp), rfl⟩
    | @dotted parts a b c d hsmall =>
      obtain ⟨rfl, hlast⟩ := List.append_inj' htexts rfl
      refine .inr ⟨a, b, c, d, octets?_eq_some_iff.mpr ⟨rfl, hsmall, ?_⟩, rfl⟩
      exact List.head_eq_of_cons_eq hlast
  · rintro (⟨hdot, rfl⟩ | ⟨a, b, c, d, hread, rfl⟩)
    · exact .plain (by simpa using hdot)
    · obtain ⟨-, hsmall, rfl⟩ := octets?_eq_some_iff.mp hread
      exact .dotted hsmall

theorem dot_mem_of_octets? {cs : List Char} {octets : List Nat} (h : octets? cs = some octets) :
    '.' ∈ cs := by
  obtain ⟨hlength, -, rfl⟩ := octets?_eq_some_iff.mp h
  obtain ⟨a, b, rest, rfl⟩ : ∃ a b rest, octets = a :: b :: rest := by
    match octets, hlength with
    | a :: b :: rest, _ => exact ⟨a, b, rest, rfl⟩
  simp [writeOctets]

theorem splitGroups?_eq_some_iff {cs : List Char} {texts : List (List Char)} :
    splitGroups? cs = some texts ↔
      3 ≤ (cs.splitOn ':').length ∧ Expands (cs.splitOn ':') texts := by
  unfold splitGroups?
  rcases List.eq_nil_or_concat' (cs.splitOn ':') with hnone | ⟨parts, last, hparts⟩
  · simp [hnone]
  rw [hparts, expands_concat_iff]
  simp only [List.getLast?_concat, List.dropLast_concat]
  by_cases hfew : (parts ++ [last]).length < 3
  · rw [if_pos hfew]
    exact ⟨nofun, fun h => by omega⟩
  rw [if_neg hfew]
  by_cases hdot : '.' ∈ last
  · rw [if_pos (List.contains_iff_mem.mpr hdot)]
    cases hread : octets? last with
    | none => simp [hdot]
    | some octets =>
      obtain ⟨a, b, c, d, rfl⟩ : ∃ a b c d, octets = [a, b, c, d] := by
        match octets, (octets?_eq_some_iff.mp hread).1 with
        | [a, b, c, d], _ => exact ⟨a, b, c, d, rfl⟩
      have hmany : 3 ≤ (parts ++ [last]).length := by omega
      simp [hdot, hmany, @eq_comm _ texts, -List.length_append]
  · rw [if_neg (by simpa using hdot)]
    constructor
    · intro h
      exact ⟨by omega, .inl ⟨hdot, (Option.some.inj h).symm⟩⟩
    · rintro ⟨-, ⟨-, rfl⟩ | ⟨a, b, c, d, hread, -⟩⟩
      · rfl
      · exact absurd (dot_mem_of_octets? hread) hdot

theorem mapM_group?_iff {parts : List (List Char)} {groups : List Nat} :
    parts.mapM group? = some groups ↔ List.Forall₂ WritesGroup parts groups := by
  simp only [mapM_eq_some_iff, group?_eq_some_iff]

theorem isSome_of_mem_part {parts : List (List Char)} {groups : List Nat}
    (h : List.Forall₂ WritesGroup parts groups) {part : List Char} (hpart : part ∈ parts) {c : Char}
    (hc : c ∈ part) : (hexDigit? c).isSome = true := by
  obtain ⟨g, hg⟩ := Option.isSome_iff_exists.mp
    ((exists_of_mapM (mapM_group?_iff.mpr h)).2.1 part hpart)
  have hwrites := group?_eq_some_iff.mp hg
  obtain ⟨ds, hds, -⟩ := mapM_hexDigit?_iff.mpr ⟨hwrites.fits, hwrites.digits⟩
  exact (exists_of_mapM hds).2.1 c hc

theorem mapM_group?_pair {parts : List (List Char)} {groups : List Nat} {m n : Nat}
    (hm : m < 65536) (hn : n < 65536) :
    (parts ++ [shortHex m, shortHex n]).mapM group? = some groups ↔
      ∃ front, parts.mapM group? = some front ∧ groups = front ++ [m, n] := by
  rw [List.mapM_append]
  simp [group?_shortHex hm, group?_shortHex hn, Option.bind_eq_some_iff, @eq_comm _ groups]

theorem writesGroups_iff {parts : List (List Char)} {groups : List Nat} :
    WritesGroups parts groups ↔
      ∃ texts, Expands parts texts ∧ texts.mapM group? = some groups := by
  constructor
  · intro h
    cases h with
    | plain h =>
      refine ⟨parts, .plain fun part hpart hdot => ?_, mapM_group?_iff.mpr h⟩
      cases isSome_of_mem_part h (List.mem_of_getLast? hpart) hdot
    | dotted h hsmall =>
      simp only [List.forall_mem_cons] at hsmall
      exact ⟨_, .dotted (by simpa using hsmall), (mapM_group?_pair (by omega) (by omega)).mpr
        ⟨_, mapM_group?_iff.mpr h, rfl⟩⟩
  · rintro ⟨texts, hexpands, hread⟩
    cases hexpands with
    | plain _ => exact .plain (mapM_group?_iff.mp hread)
    | dotted hsmall =>
      have hoctets := hsmall
      simp only [List.forall_mem_cons] at hoctets
      obtain ⟨front, hfront, rfl⟩ := (mapM_group?_pair (by omega) (by omega)).mp hread
      exact .dotted (mapM_group?_iff.mp hfront) hsmall

theorem getLast?_gap_iff {before after : List (List Char)} :
    (∀ part ∈ (ends before ++ [] :: ends after).getLast?, '.' ∉ part) ↔
      ∀ part ∈ after.getLast?, '.' ∉ part := by
  rcases List.eq_nil_or_concat' after with rfl | ⟨parts, last, rfl⟩
  · simp [ends]
  · simp [ends, List.getLast?_cons, List.getLast?_append]

theorem ends_append (parts : List (List Char)) (part : List Char) (rest : List (List Char)) :
    ends (parts ++ part :: rest) = parts ++ part :: rest :=
  if_neg (by simp)

theorem shortHex_ne_nil (n : Nat) : shortHex n ≠ [] :=
  Nat.toDigits_ne_nil

theorem expands_gap_iff {parts before texts : List (List Char)} :
    Expands parts (ends before ++ [] :: ends texts) ↔
      ∃ after, parts = ends before ++ [] :: ends after ∧ Expands after texts := by
  constructor
  · generalize hwhole : ends before ++ [] :: ends texts = whole
    intro h
    cases h with
    | plain hdot =>
      subst hwhole
      exact ⟨texts, rfl, .plain (getLast?_gap_iff.mp hdot)⟩
    | @dotted parts a b c d hsmall =>
      have hfirst := shortHex_ne_nil (256 * a + b)
      have hsecond := shortHex_ne_nil (256 * c + d)
      rcases List.append_eq_append_iff.mp hwhole with ⟨rest, rfl, hrest⟩ | ⟨rest, -, hrest⟩
      · cases rest with
        | nil => exact absurd (List.head_eq_of_cons_eq hrest).symm hfirst
        | cons part rest =>
          rw [List.cons_append, List.cons_eq_cons] at hrest
          obtain ⟨rfl, htexts⟩ := hrest
          rcases ends_cases texts with ⟨-, hends⟩ | ⟨-, hends⟩
          · rw [hends] at htexts
            have hlength := congrArg List.length htexts
            simp at hlength
          · rw [hends] at htexts
            refine ⟨rest ++ [writeOctets [a, b, c, d]], ?_, htexts ▸ .dotted hsmall⟩
            rw [ends_append, List.append_assoc]
            rfl
      · have hmem : [] ∈ [shortHex (256 * a + b), shortHex (256 * c + d)] := by simp [hrest]
        simp [hfirst.symm, hsecond.symm] at hmem
  · rintro ⟨after, rfl, h⟩
    cases h with
    | plain hdot => exact .plain (getLast?_gap_iff.mpr hdot)
    | @dotted parts a b c d hsmall =>
      rw [ends_append, ends_append, ← List.cons_append, ← List.append_assoc, ← List.cons_append,
        ← List.append_assoc]
      exact .dotted hsmall

theorem length_le_of_writesGroups {parts : List (List Char)} {groups : List Nat}
    (h : WritesGroups parts groups) : groups.length ≤ parts.length + 1 := by
  cases h with
  | plain h =>
    rw [h.length_eq]
    exact Nat.le_succ groups.length
  | dotted h hsmall => simp [h.length_eq]

theorem mem_of_writesGroups {parts : List (List Char)} {groups : List Nat}
    (h : WritesGroups parts groups) {part : List Char} (hpart : part ∈ parts) {c : Char}
    (hc : c ∈ part) : c = '.' ∨ (hexDigit? c).isSome = true := by
  cases h with
  | plain h => exact .inr (isSome_of_mem_part h hpart hc)
  | dotted h hsmall =>
    rcases List.mem_append.mp hpart with hpart | hpart
    · exact .inr (isSome_of_mem_part h hpart hc)
    · rw [List.mem_singleton.mp hpart] at hc
      exact (mem_writeOctets hc).imp_right isSome_hexDigit?_of_isDigit

theorem colon_not_mem_of_writesGroups {parts : List (List Char)} {groups : List Nat}
    (h : WritesGroups parts groups) : ∀ part ∈ parts, ':' ∉ part := by
  intro part hpart hcolon
  rcases mem_of_writesGroups h hpart hcolon with hdot | hdigit
  · cases hdot
  · cases hdigit

theorem groups?_eq_some_iff {cs : List Char} {groups : List Nat} :
    groups? cs = some groups ↔ DenotesGroups cs groups := by
  have htext : [':'].intercalate (cs.splitOn ':') = cs := List.intercalate_splitOn ':'
  constructor
  · intro h
    rw [groups?_eq] at h
    obtain ⟨texts, hsplit, h⟩ := Option.bind_eq_some_iff.mp h
    obtain ⟨-, hexpands⟩ := splitGroups?_eq_some_iff.mp hsplit
    rcases gather?_eq_some h with
      ⟨hread, hlength⟩ | ⟨before, texts, front, back, rfl, hfront, hback, hroom, rfl⟩
    · rw [← htext]
      exact .whole (writesGroups_iff.mpr ⟨texts, hexpands, hread⟩) hlength
    · obtain ⟨after, hparts, hexpands⟩ := expands_gap_iff.mp hexpands
      rw [← htext, hparts, intercalate_gap]
      refine .gap ?_ (writesGroups_iff.mpr ⟨texts, hexpands, hback⟩) hroom
      exact mapM_group?_iff.mp hfront
  · intro h
    rw [groups?_eq]
    cases h with
    | @whole parts groups h hlength =>
      obtain ⟨texts, hexpands, hread⟩ := writesGroups_iff.mp h
      have hmany := length_le_of_writesGroups h
      have hparts : ([':'].intercalate parts).splitOn ':' = parts :=
        List.splitOn_intercalate ':' (colon_not_mem_of_writesGroups h)
          (List.length_pos_iff.mp (by omega))
      have hsplit : splitGroups? ([':'].intercalate parts) = some texts :=
        splitGroups?_eq_some_iff.mpr (by rw [hparts]; exact ⟨by omega, hexpands⟩)
      rw [hsplit, Option.bind_some, gather?_whole hread hlength]
    | @gap before after front back hfront hback hroom =>
      obtain ⟨texts, hexpands, hread⟩ := writesGroups_iff.mp hback
      have hparts := splitOn_gap (colon_not_mem_of_writesGroups (.plain hfront))
        (colon_not_mem_of_writesGroups hback)
      have hsplit : splitGroups? ([':'].intercalate before ++
          ':' :: ':' :: [':'].intercalate after) = some (ends before ++ [] :: ends texts) := by
        rw [splitGroups?_eq_some_iff, hparts]
        exact ⟨three_le_length_gap before after, expands_gap_iff.mpr ⟨after, rfl, hexpands⟩⟩
      rw [hsplit, Option.bind_some, gather?_gap (mapM_group?_iff.mpr hfront) hread hroom]

theorem colon_mem_intercalate {parts : List (List Char)} (h : 2 ≤ parts.length) :
    ':' ∈ [':'].intercalate parts := by
  match parts, h with
  | first :: second :: rest, _ => simp [List.intercalate_cons_cons]

theorem mem_of_denotesGroups {cs : List Char} {groups : List Nat} (h : DenotesGroups cs groups)
    {c : Char} (hc : c ∈ cs) : c = ':' ∨ c = '.' ∨ (hexDigit? c).isSome = true := by
  have hjoined : ∀ {parts groups}, WritesGroups parts groups → c ∈ [':'].intercalate parts →
      c = ':' ∨ c = '.' ∨ (hexDigit? c).isSome = true := by
    intro parts groups h hc
    refine (mem_intercalate hc).imp_right ?_
    rintro ⟨part, hpart, hmem⟩
    exact mem_of_writesGroups h hpart hmem
  cases h with
  | whole h hlength => exact hjoined h hc
  | gap hfront hback hroom =>
    simp only [List.mem_append, List.mem_cons] at hc
    rcases hc with hc | hc | hc | hc
    · exact hjoined (.plain hfront) hc
    · exact .inl hc
    · exact .inl hc
    · exact hjoined hback hc

theorem marks_of_denotesGroups {cs : List Char} {groups : List Nat}
    (h : DenotesGroups cs groups) : ':' ∈ cs ∧ '/' ∉ cs ∧ '%' ∉ cs := by
  have hother : ∀ c, c ≠ ':' → c ≠ '.' → hexDigit? c = none → c ∉ cs := by
    intro c hcolon hdot hnone hmem
    rcases mem_of_denotesGroups h hmem with heq | heq | hsome
    · exact hcolon heq
    · exact hdot heq
    · rw [hnone] at hsome
      cases hsome
  refine ⟨?_, hother '/' (by decide) (by decide) rfl, hother '%' (by decide) (by decide) rfl⟩
  cases h with
  | whole h hlength =>
    have hmany := length_le_of_writesGroups h
    exact colon_mem_intercalate (by omega)
  | gap hfront hback hroom => simp

end Groups

section Texts

theorem splitZone?_text {cs body : List Char} {zone : Option (List Char)}
    (h : splitZone? cs = some (body, zone)) : cs = body ++ (zone.map ('%' :: ·)).getD [] := by
  have hsplit : cs.takeWhile (· ≠ '%') ++ cs.dropWhile (· ≠ '%') = cs :=
    List.takeWhile_append_dropWhile
  have hhead := List.head?_dropWhile_not (· ≠ '%') cs
  unfold splitZone? at h
  dsimp only at h
  generalize cs.takeWhile (· ≠ '%') = front at h hsplit
  generalize cs.dropWhile (· ≠ '%') = rest at hsplit hhead
  subst hsplit
  rw [List.drop_left] at h
  split at h
  · cases h
    rfl
  · rename_i c zone
    split at h
    · cases h
    · cases h
      simpa using hhead

theorem read?_eq_some_iff {cs : List Char} {a : Address} :
    read? cs = some a ↔ Denotes cs a := by
  constructor
  · intro h
    obtain ⟨hslash, ⟨octets, hoctets, rfl⟩ | ⟨body, zone, groups, hsplit, hgroups, rfl⟩⟩ :=
      read?_cases h
    · obtain ⟨hlength, hsmall, rfl⟩ := octets?_eq_some_iff.mp hoctets
      exact .v4 hlength hsmall
    · have hdenotes := groups?_eq_some_iff.mp hgroups
      cases zone with
      | none =>
        obtain rfl : cs = body := by simpa using splitZone?_text hsplit
        exact .v6 hdenotes
      | some zone =>
        obtain ⟨hsuffix, hsome, hzone⟩ := splitZone?_eq_some hsplit zone rfl
        rw [splitZone?_text hsplit]
        exact .zoned hdenotes hsome hzone fun hmem => hslash (hsuffix.mem hmem)
  · intro h
    cases h with
    | v4 hlength hsmall => exact read?_write (a := .v4 _) ⟨hlength, hsmall⟩
    | v6 h =>
      obtain ⟨hcolon, hslash, hpercent⟩ := marks_of_denotesGroups h
      rw [read?_of_colon hslash hcolon, splitZone?_plain hpercent, Option.bind_some,
        groups?_eq_some_iff.mpr h]
      rfl
    | zoned h hsome hzone hbare =>
      obtain ⟨hcolon, hslash, hpercent⟩ := marks_of_denotesGroups h
      rw [read?_of_colon (by simp [hslash, hbare]) (by simp [hcolon]),
        splitZone?_named hpercent hsome hzone, Option.bind_some, groups?_eq_some_iff.mpr h]
      rfl

example : Denotes "::FFFF:1.2.3.4%eth0".toList
    (.v6 [0, 0, 0, 0, 0, 65535, 258, 772] (some "eth0".toList)) :=
  read?_eq_some_iff.mp (by decide +kernel)

end Texts
end Census.Network.Address
