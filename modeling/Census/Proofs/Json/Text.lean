import Census.Json.Reader
import Census.Json.Writer
import Census.Proofs.Text.Digit

/-! Texts and lists of texts that are written as values are read back as they were. -/
namespace Census.Json

open Census.Text

-- every lemma on the reader starts from its equations, which are made here once for all of them
attribute [local simp] readText

theorem unit?_hex {n : Nat} (h : n < 0x10000) :
    ∃ a b c d, hex 4 n = [a, b, c, d] ∧ unit? a b c d = some n := by
  refine ⟨_, _, _, _, rfl, ?_⟩
  unfold unit?
  rw [hexDigit?_digitChar _ (Nat.mod_lt _ (by decide)),
    hexDigit?_digitChar _ (Nat.mod_lt _ (by decide)),
    hexDigit?_digitChar _ (Nat.mod_lt _ (by decide)),
    hexDigit?_digitChar _ (Nat.mod_lt _ (by decide))]
  dsimp
  congr 1
  omega

theorem readText_escapeUnit {n : Nat} (h : n < 0xD800 ∨ 0xE000 ≤ n ∧ n < 0x10000)
    (rest : List Char) :
    readText (escapeUnit n ++ rest) =
      (readText rest).map fun (cs, rest) => (Char.ofNat n :: cs, rest) := by
  obtain ⟨a, b, c, d, hhex, hunit⟩ := unit?_hex (show n < 0x10000 by omega)
  unfold escapeUnit
  rw [hhex]
  simp only [List.cons_append, List.nil_append]
  rw [readText, hunit]
  dsimp only
  rw [if_pos (by omega)]

theorem readText_escapePair {high low : Nat} (hhigh : 0xD800 ≤ high ∧ high < 0xDC00)
    (hlow : 0xDC00 ≤ low ∧ low < 0xE000) (rest : List Char) :
    readText (escapeUnit high ++ (escapeUnit low ++ rest)) =
      (readText rest).map fun (cs, rest) =>
        (Char.ofNat (0x10000 + (high - 0xD800) * 0x400 + (low - 0xDC00)) :: cs, rest) := by
  obtain ⟨a, b, c, d, hhex, hunit⟩ := unit?_hex (show high < 0x10000 by omega)
  obtain ⟨a', b', c', d', hhex', hunit'⟩ := unit?_hex (show low < 0x10000 by omega)
  unfold escapeUnit
  rw [hhex, hhex']
  simp only [List.cons_append, List.nil_append]
  rw [readText, hunit]
  dsimp only
  rw [if_neg (by omega), if_neg (by omega)]
  simp [hunit', hlow]

theorem readText_simple {c e : Char} (hunit : c ≠ 'u') (h : simpleEscape? c = some e)
    (rest : List Char) :
    readText ('\\' :: c :: rest) = (readText rest).map fun (cs, rest) => (e :: cs, rest) := by
  rw [readText.eq_3 _ _ (by simp [hunit]), h]

theorem readText_plain {c : Char} (hquote : c ≠ doubleQuote) (hslash : c ≠ '\\')
    (h : 0x20 ≤ c.toNat) (rest : List Char) :
    readText (c :: rest) = (readText rest).map fun (cs, rest) => (c :: cs, rest) := by
  rw [readText.eq_4 _ _ (by simp [hslash]) (by simp [hslash]), if_neg hquote,
    if_neg (by rw [not_or]; exact ⟨hslash, by omega⟩)]

theorem readText_escapeChar (c : Char) (rest : List Char) :
    readText (escapeChar c ++ rest) =
      (readText rest).map fun (cs, rest) => (c :: cs, rest) := by
  have hvalid : c.toNat < 0xD800 ∨ 0xDFFF < c.toNat ∧ c.toNat < 0x110000 := c.valid
  have hchar : ∀ n, n = c.toNat → Char.ofNat n = c := by
    intro n hn
    rw [hn, Char.ofNat_toNat]
  unfold escapeChar
  dsimp only
  split
  · rename_i h
    exact readText_simple (by rcases h with rfl | rfl <;> decide)
      (by rcases h with rfl | rfl <;> rfl) rest
  split
  · rename_i h
    subst h
    exact readText_simple (by decide) rfl rest
  split
  · rename_i h
    subst h
    exact readText_simple (by decide) rfl rest
  split
  · rename_i h
    subst h
    exact readText_simple (by decide) rfl rest
  split
  · rename_i h
    rw [← hchar 8 h.symm]
    exact readText_simple (by decide) rfl rest
  split
  · rename_i h
    rw [← hchar 12 h.symm]
    exact readText_simple (by decide) rfl rest
  split
  · rename_i hspecial _ _ _ _ _ h
    rw [not_or] at hspecial
    exact readText_plain hspecial.2 hspecial.1 h.1 rest
  split
  · rw [readText_escapeUnit (by omega), hchar _ rfl]
  · rw [List.append_assoc, readText_escapePair (by omega) (by omega), hchar _ (by omega)]

theorem readText_escaped (cs rest : List Char) :
    readText (cs.flatMap escapeChar ++ doubleQuote :: rest) = some (cs, rest) := by
  induction cs with
  | nil =>
    have hquote : doubleQuote ≠ '\\' := by decide
    rw [List.flatMap_nil, List.nil_append, readText.eq_4 _ _ (by simp [hquote]) (by simp [hquote]),
      if_pos rfl]
  | cons c cs ih =>
    rw [List.flatMap_cons, List.append_assoc, readText_escapeChar, ih]
    rfl

theorem readScalar_writeText (s : String) (rest : List Char) :
    readScalar (writeText s ++ rest) = some (.string s, rest) := by
  have hliteral : readLiteral (writeText s ++ rest) = none := rfl
  have htext : writeText s ++ rest =
      doubleQuote :: (s.toList.flatMap escapeChar ++ doubleQuote :: rest) := by
    simp [writeText]
  have hscalar : readScalar (writeText s ++ rest) =
      (readText (s.toList.flatMap escapeChar ++ doubleQuote :: rest)).map fun (t, rest) =>
        (.string (String.ofList t), rest) := by
    unfold readScalar
    rw [hliteral, htext]
    rfl
  rw [hscalar, readText_escaped, Option.map_some]
  dsimp only
  rw [String.ofList_toList]

/-- A written text is read back whatever follows it, however many collections are open. -/
theorem readValue_writeText (depth : Nat) (s : String) (rest : List Char) :
    readValue depth (writeText s ++ rest) = some (.string s, rest) := by
  have hempty : readEmpty (writeText s ++ rest) = none := rfl
  cases depth with
  | zero => rw [readValue, hempty, readScalar_writeText, Option.none_or]
  | succ depth =>
    have hvalue : readValue (depth + 1) (writeText s ++ rest) = readScalar (writeText s ++ rest) :=
      rfl
    rw [hvalue, readScalar_writeText]

theorem writeItems_strings (ts : List String) :
    writeItems (ts.map .string) = ts.map writeText := by
  induction ts with
  | nil => rfl
  | cons t ts ih =>
    rw [List.map_cons, writeItems, ih]
    rfl

theorem readItems_joined (depth : Nat) (t : String) (ts : List String) (rest : List Char)
    {fuel : Nat} (hfuel : ts.length < fuel) {before : List Json} {cs : List Char}
    (hcs : skipSpace cs = joined ((t :: ts).map writeText) ++ ']' :: rest) :
    readItems (readValue depth) fuel before cs =
      some (before.reverse ++ (t :: ts).map .string, rest) := by
  induction ts generalizing t fuel before cs with
  | nil =>
    obtain ⟨fuel, rfl⟩ := Nat.exists_eq_add_one.mpr hfuel
    rw [readItems, hcs]
    simp only [List.map_cons, List.map_nil, joined]
    rw [readValue_writeText]
    simp [skipSpace, isSpace]
  | cons next ts ih =>
    obtain ⟨fuel, rfl⟩ := Nat.exists_eq_add_one.mpr (Nat.zero_lt_of_lt hfuel)
    have hnext : skipSpace (' ' :: (joined ((next :: ts).map writeText) ++ ']' :: rest)) =
        joined ((next :: ts).map writeText) ++ ']' :: rest := by
      cases ts <;> rfl
    rw [readItems, hcs]
    simp only [List.map_cons, joined, List.append_assoc, List.cons_append]
    rw [readValue_writeText]
    change readItems (readValue depth) fuel (.string t :: before)
      (' ' :: (joined ((next :: ts).map writeText) ++ ']' :: rest)) = _
    rw [ih next (Nat.lt_of_succ_lt_succ hfuel) hnext]
    simp

theorem length_le_joined (xs : List (List Char)) : xs.length ≤ (joined xs).length + 1 := by
  induction xs with
  | nil => simp
  | cons x xs ih =>
    cases xs with
    | nil => simp
    | cons y ys =>
      simp only [joined, List.length_cons, List.length_append] at ih ⊢
      omega

theorem readValue_strings (depth : Nat) (ts : List String) :
    readValue (depth + 1) (Json.array (ts.map .string)).write =
      some (.array (ts.map .string), []) := by
  rw [write, writeItems_strings]
  cases ts with
  | nil => rfl
  | cons t ts =>
    generalize hinner : joined ((t :: ts).map writeText) ++ [']'] = inner
    have hspace : skipSpace inner = joined ((t :: ts).map writeText) ++ [']'] := by
      rw [← hinner]
      cases ts <;> rfl
    have hempty : readEmpty ('[' :: inner) = none := by
      rw [← hinner]
      cases ts <;> rfl
    have hfuel : ts.length < inner.length + 1 := by
      have := length_le_joined ((t :: ts).map writeText)
      rw [← hinner]
      simp only [List.length_map, List.length_cons, List.length_append] at this ⊢
      omega
    have hitems : readItems (readValue depth) (inner.length + 1) [] inner =
        some ((t :: ts).map .string, []) :=
      readItems_joined depth t ts [] hfuel hspace
    rw [List.cons_append, hinner, readValue.eq_3 depth inner hempty, hitems]
    rfl

theorem read?_strings (ts : List String) :
    read? (Json.array (ts.map .string)).write = some (.array (ts.map .string)) := by
  have hspace : skipSpace (Json.array (ts.map .string)).write =
      (Json.array (ts.map .string)).write := by
    rw [write]
    rfl
  unfold read? readTo?
  rw [hspace, depthLimit, readValue_strings]
  rfl

theorem write_strings_injective {ts us : List String}
    (h : (Json.array (ts.map .string)).write = (Json.array (us.map .string)).write) : ts = us := by
  have hread := read?_strings ts
  rw [h, read?_strings] at hread
  have hitems := Json.array.inj (Option.some.inj hread)
  exact (List.map_inj_right fun _ _ => Json.string.inj).mp hitems.symm

end Census.Json
