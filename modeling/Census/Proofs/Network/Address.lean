import Census.Network.Address
import Census.Proofs.Text.Digit
import Census.Text.Blank
import Mathlib.Data.List.Induction
import Mathlib.Data.List.Nodup

/-! The written form of an address is read back as that address, with the zeros that it leaves out
and the zone that it names. What was read has the parts that its form can show. -/
namespace Census.Network.Address

open Census.Text

def Sound : Address → Prop
  | v4 octets => octets.length = 4 ∧ ∀ o ∈ octets, o < 256
  | v6 groups zone => groups.length = 8 ∧ (∀ g ∈ groups, g < 65536) ∧
      ∀ z ∈ zone, z ≠ [] ∧ '%' ∉ z ∧ '/' ∉ z

section Parts

theorem mem_intercalate {sep c : Char} {parts : List (List Char)}
    (h : c ∈ [sep].intercalate parts) : c = sep ∨ ∃ part ∈ parts, c ∈ part := by
  induction parts with
  | nil => simp at h
  | cons part rest ih =>
    cases rest with
    | nil => exact .inr ⟨part, List.mem_cons_self, by simpa using h⟩
    | cons next rest =>
      rw [List.intercalate_cons_cons, List.append_assoc] at h
      rcases List.mem_append.mp h with h | h
      · exact .inr ⟨part, List.mem_cons_self, h⟩
      rcases List.mem_append.mp h with h | h
      · exact .inl (List.mem_singleton.mp h)
      rcases ih h with hsep | ⟨other, hother, hc⟩
      · exact .inl hsep
      · exact .inr ⟨other, List.mem_cons_of_mem part hother, hc⟩

theorem intercalate_append {sep : List Char} {before after : List (List Char)} (hb : before ≠ [])
    (ha : after ≠ []) : sep.intercalate (before ++ after) =
      sep.intercalate before ++ (sep ++ sep.intercalate after) := by
  induction before with
  | nil => exact absurd rfl hb
  | cons part rest ih =>
    cases rest with
    | nil => simp [List.intercalate_cons_of_ne_nil ha]
    | cons next rest =>
      rw [List.cons_append, List.intercalate_cons_of_ne_nil (by simp), ih (by simp),
        List.intercalate_cons_cons]
      simp

end Parts

section Octets

theorem octet?_toDigits : ∀ n, n < 256 → octet? (Nat.toDigits 10 n) = some n := by
  decide +kernel

theorem octet?_eq_some {cs : List Char} {n : Nat} (h : octet? cs = some n) :
    n < 256 ∧ ∀ c ∈ cs, (asciiDigit? c).isSome = true := by
  unfold octet? at h
  obtain ⟨ds, hdigits, h⟩ := Option.bind_eq_some_iff.mp h
  refine ⟨?_, (exists_of_mapM hdigits).2.1⟩
  split at h
  · cases h
  · dsimp only at h
    split at h
    · rename_i hn
      rw [← Option.some.inj h]
      exact hn
    · cases h

theorem octets?_eq_some {cs : List Char} {octets : List Nat} (h : octets? cs = some octets) :
    octets.length = 4 ∧ (∀ o ∈ octets, o < 256) ∧ ':' ∉ cs := by
  unfold octets? at h
  dsimp only at h
  split at h
  · cases h
  · rename_i hlength
    obtain ⟨hlen, hparts, hvalues⟩ := exists_of_mapM (f := octet?) h
    refine ⟨hlen.trans (Decidable.not_not.mp hlength), ?_, fun hcolon => ?_⟩
    · intro o ho
      obtain ⟨part, hpart⟩ := hvalues o ho
      exact (octet?_eq_some hpart).1
    · have htext : ['.'].intercalate (cs.splitOn '.') = cs := List.intercalate_splitOn '.'
      rw [← htext] at hcolon
      rcases mem_intercalate hcolon with hdot | ⟨part, hpart, hc⟩
      · cases hdot
      · obtain ⟨n, hn⟩ := Option.isSome_iff_exists.mp (hparts part hpart)
        exact Bool.noConfusion ((octet?_eq_some hn).2 ':' hc)

theorem writeOctets_eq (octets : List Nat) :
    writeOctets octets = ['.'].intercalate (octets.map (Nat.toDigits 10)) := by
  fun_induction writeOctets octets with
  | case1 => rfl
  | case2 n => simp
  | case3 n m rest ih => simp [ih, List.intercalate_cons_cons]

theorem octets?_writeOctets {octets : List Nat} (hlength : octets.length = 4)
    (hsmall : ∀ o ∈ octets, o < 256) : octets? (writeOctets octets) = some octets := by
  have hdot : ∀ part ∈ octets.map (Nat.toDigits 10), '.' ∉ part := by
    intro part hpart hc
    obtain ⟨n, -, rfl⟩ := List.mem_map.mp hpart
    exact Bool.noConfusion (Nat.isDigit_of_mem_toDigits (by decide) (by decide) hc)
  have hsome : octets.map (Nat.toDigits 10) ≠ [] := by
    rw [← List.length_pos_iff, List.length_map, hlength]
    decide
  unfold octets?
  rw [writeOctets_eq, List.splitOn_intercalate '.' hdot hsome]
  dsimp only
  rw [if_neg (by simp [hlength])]
  exact mapM_map_eq_some fun o ho => octet?_toDigits o (hsmall o ho)

end Octets

section Groups

theorem group?_lt {cs : List Char} {n : Nat} (h : group? cs = some n) : n < 65536 := by
  unfold group? at h
  split at h
  · cases h
  · rename_i hcs
    obtain ⟨ds, hdigits, h⟩ := Option.bind_eq_some_iff.mp h
    have hfits := (mapM_hexDigit?_iff.mp ⟨ds, hdigits, Option.some.inj h⟩).1
    have hfour : 16 ^ cs.length ≤ 16 ^ 4 := Nat.pow_le_pow_right (by decide) (by omega)
    exact Nat.lt_of_lt_of_le hfits hfour

theorem group?_shortHex {n : Nat} (h : n < 65536) : group? (shortHex n) = some n := by
  obtain ⟨ds, hdigits, hvalue⟩ := mapM_hexDigit?_shortHex n
  have hlength : (shortHex n).length ≤ 4 :=
    (Nat.length_toDigits_le_iff (by decide) (by decide)).mpr h
  have hsome : shortHex n ≠ [] := Nat.toDigits_ne_nil
  unfold group?
  rw [if_neg (by simp [hsome]; omega), hdigits, ← hvalue]
  rfl

theorem joinGroups_eq (groups : List Nat) :
    joinGroups groups = [':'].intercalate (groups.map shortHex) := by
  fun_induction joinGroups groups with
  | case1 => rfl
  | case2 g => simp
  | case3 g h rest ih => simp [ih, List.intercalate_cons_cons]

/-- The parts of a text between colons: one empty part where there are none. -/
def ends (parts : List (List Char)) : List (List Char) :=
  if parts = [] then [[]] else parts

theorem ends_ne_nil (parts : List (List Char)) : ends parts ≠ [] := by
  unfold ends
  split
  · simp
  · assumption

theorem intercalate_ends (sep : List Char) (parts : List (List Char)) :
    sep.intercalate (ends parts) = sep.intercalate parts := by
  unfold ends
  split
  · rename_i hnone
    simp [hnone]
  · rfl

theorem intercalate_gap (before after : List (List Char)) :
    [':'].intercalate (ends before ++ [] :: ends after) =
      [':'].intercalate before ++ ':' :: ':' :: [':'].intercalate after := by
  rw [intercalate_append (ends_ne_nil before) (by simp),
    List.intercalate_cons_of_ne_nil (ends_ne_nil after), intercalate_ends, intercalate_ends]
  rfl

theorem ends_cases (parts : List (List Char)) :
    (parts = [] ∧ ends parts = [[]]) ∨ (parts ≠ [] ∧ ends parts = parts) := by
  unfold ends
  split
  · exact .inl ⟨‹_›, rfl⟩
  · exact .inr ⟨‹_›, rfl⟩

theorem not_mem_shortHex {c : Char} (hc : hexDigit? c = none) (groups : List Nat) :
    ∀ part ∈ groups.map shortHex, c ∉ part := by
  intro part hpart hmem
  obtain ⟨g, -, rfl⟩ := List.mem_map.mp hpart
  have hsome := isSome_hexDigit?_of_mem_shortHex hmem
  rw [hc] at hsome
  exact Bool.noConfusion hsome

theorem three_le_length_gap (before after : List (List Char)) :
    3 ≤ (ends before ++ [] :: ends after).length := by
  have hbefore := List.length_pos_iff.mpr (ends_ne_nil before)
  have hafter := List.length_pos_iff.mpr (ends_ne_nil after)
  rw [List.length_append, List.length_cons]
  omega

theorem splitOn_gap {before after : List (List Char)} (hb : ∀ part ∈ before, ':' ∉ part)
    (ha : ∀ part ∈ after, ':' ∉ part) :
    ([':'].intercalate before ++ ':' :: ':' :: [':'].intercalate after).splitOn ':' =
      ends before ++ [] :: ends after := by
  have hcolon : ∀ parts : List (List Char), (∀ part ∈ parts, ':' ∉ part) →
      ∀ part ∈ ends parts, ':' ∉ part := by
    intro parts hparts part hpart
    rcases ends_cases parts with ⟨-, hends⟩ | ⟨-, hends⟩
    · rw [hends, List.mem_singleton] at hpart
      simp [hpart]
    · rw [hends] at hpart
      exact hparts part hpart
  rw [← intercalate_gap, List.splitOn_intercalate ':' ?_ (by simp)]
  intro part hpart
  rcases List.mem_append.mp hpart with hpart | hpart
  · exact hcolon before hb part hpart
  rcases List.mem_cons.mp hpart with rfl | hpart
  · simp
  · exact hcolon after ha part hpart

theorem gaps_eq_nil {parts : List (List Char)} (h : ∀ part ∈ parts, part ≠ []) :
    gaps parts = [] := by
  unfold gaps
  rw [List.filter_eq_nil_iff]
  intro i hi hgap
  have hlt := List.mem_range.mp hi
  simp [hlt, h parts[i] (List.getElem_mem hlt)] at hgap

theorem eq_zero_of_isEmpty_ends {parts : List (List Char)} (h : ∀ part ∈ parts, part ≠ []) {i : Nat}
    (hi : i < (ends parts).length) (hempty : (ends parts)[i] = []) :
    i = 0 ∧ (ends parts).length = 1 := by
  rcases ends_cases parts with ⟨-, hends⟩ | ⟨-, hends⟩
  · simp only [hends, List.length_singleton] at hi ⊢
    exact ⟨Nat.lt_one_iff.mp hi, trivial⟩
  · simp only [hends] at hi hempty
    exact absurd hempty (h parts[i] (List.getElem_mem hi))

theorem gaps_eq {before after : List (List Char)} (hb : ∀ part ∈ before, part ≠ [])
    (ha : ∀ part ∈ after, part ≠ []) :
    gaps (ends before ++ [] :: ends after) = [(ends before).length] := by
  have hlength := List.length_pos_iff.mpr (ends_ne_nil before)
  have hlength' := List.length_pos_iff.mpr (ends_ne_nil after)
  have hplace : ∀ i ∈ List.range (ends before ++ [] :: ends after).length,
      (0 < i && i + 1 < (ends before ++ [] :: ends after).length &&
        ((ends before ++ [] :: ends after)[i]?.getD []).isEmpty) = (i == (ends before).length) := by
    intro i hi
    rw [List.mem_range] at hi
    rw [Bool.eq_iff_iff, List.getElem?_eq_getElem hi, Option.getD_some]
    simp only [Bool.and_eq_true, decide_eq_true_eq, List.isEmpty_iff, beq_iff_eq,
      List.getElem_append]
    rw [List.length_append, List.length_cons] at hi ⊢
    constructor
    · rintro ⟨⟨hfirst, hlast⟩, hempty⟩
      split at hempty
      · rename_i hbefore
        have hend := eq_zero_of_isEmpty_ends hb hbefore hempty
        omega
      · rename_i hafter
        rw [List.getElem_cons] at hempty
        split at hempty
        · omega
        · have hend := eq_zero_of_isEmpty_ends ha (by omega) hempty
          omega
    · rintro rfl
      simp [hlength, hlength']
  unfold gaps
  rw [List.filter_congr hplace, List.filter_beq, List.count_eq_one_of_mem List.nodup_range]
  · rfl
  · rw [List.mem_range, List.length_append, List.length_cons]
    omega

theorem aroundGap?_eq {before after : List (List Char)} (hb : ∀ part ∈ before, part ≠ [])
    (ha : ∀ part ∈ after, part ≠ []) (hroom : before.length + after.length < 8) :
    aroundGap? (ends before ++ [] :: ends after) (ends before).length = some (before, after) := by
  have hdrop : (ends before ++ [] :: ends after).drop ((ends before).length + 1) = ends after := by
    rw [List.drop_append]
    simp
  have hbefore : (if (ends before).head? = some [] then
      (if (ends before).length = 1 then some [] else none) else some (ends before)) =
        some before := by
    rcases ends_cases before with ⟨hnone, hends⟩ | ⟨hsome, hends⟩
    · rw [hends, hnone]
      rfl
    · rw [hends, if_neg fun hhead => hb [] (List.mem_of_head? hhead) rfl]
  have hafter : (if (ends after).getLast? = some [] then
      (if (ends after).length = 1 then some [] else none) else some (ends after)) =
        some after := by
    rcases ends_cases after with ⟨hnone, hends⟩ | ⟨hsome, hends⟩
    · rw [hends, hnone]
      rfl
    · rw [hends, if_neg fun hlast => ha [] (List.mem_of_getLast? hlast) rfl]
  unfold aroundGap?
  dsimp only
  rw [List.take_left', hdrop, hbefore, hafter]
  · exact if_pos hroom
  · rfl

theorem ends_of_edge {side rest : List (List Char)} {edge : Option (List Char)} (hside : side ≠ [])
    (hedge : ∀ part, side = [part] → edge = some part)
    (h : (if edge = some [] then (if side.length = 1 then some [] else none) else some side) =
      some rest) : side = ends rest := by
  split at h
  · rename_i hempty
    split at h
    · rename_i hone
      obtain ⟨part, rfl⟩ := List.length_eq_one_iff.mp hone
      rw [← Option.some.inj h, Option.some.inj ((hedge part rfl).symm.trans hempty)]
      rfl
    · cases h
  · rw [← Option.some.inj h]
    rcases ends_cases side with ⟨hnone, -⟩ | ⟨-, hends⟩
    · exact absurd hnone hside
    · exact hends.symm

theorem aroundGap?_eq_some {parts before after : List (List Char)} {gap : Nat}
    (hgap : gap ∈ gaps parts) (h : aroundGap? parts gap = some (before, after)) :
    parts = ends before ++ [] :: ends after ∧ before.length + after.length < 8 := by
  simp only [gaps, List.mem_filter, List.mem_range, Bool.and_eq_true, decide_eq_true_eq,
    List.isEmpty_iff] at hgap
  obtain ⟨hlt, ⟨hfirst, hlast⟩, hempty⟩ := hgap
  rw [List.getElem?_eq_getElem hlt, Option.getD_some] at hempty
  unfold aroundGap? at h
  dsimp only at h
  split at h
  · rename_i b a hbefore hafter
    split at h
    · rename_i hroom
      cases h
      have hfront : parts.take gap = ends before := by
        refine ends_of_edge ?_ ?_ hbefore
        · rw [← List.length_pos_iff, List.length_take]
          omega
        · intro part hpart
          rw [hpart]
          rfl
      have hback : parts.drop (gap + 1) = ends after := by
        refine ends_of_edge ?_ ?_ hafter
        · rw [← List.length_pos_iff, List.length_drop]
          omega
        · intro part hpart
          rw [hpart]
          rfl
      refine ⟨?_, hroom⟩
      rw [← hfront, ← hback, ← hempty, List.getElem_cons_drop, List.take_append_drop]
    · cases h
  · cases h

def gather? (parts : List (List Char)) : Option (List Nat) := do
  if 9 < parts.length then none
  match gaps parts with
  | [] => if parts.length = 8 then parts.mapM group? else none
  | [gap] =>
    let (before, after) ← aroundGap? parts gap
    let before ← before.mapM group?
    let after ← after.mapM group?
    return before ++ List.replicate (8 - (before.length + after.length)) 0 ++ after
  | _ => none

theorem groups?_eq (cs : List Char) : groups? cs = (splitGroups? cs).bind gather? :=
  rfl

theorem ne_nil_of_mapM_group? {parts : List (List Char)} {groups : List Nat}
    (h : parts.mapM group? = some groups) : ∀ part ∈ parts, part ≠ [] := by
  rintro part hpart rfl
  cases (exists_of_mapM h).2.1 [] hpart

theorem gather?_whole {parts : List (List Char)} {groups : List Nat}
    (h : parts.mapM group? = some groups) (hlength : groups.length = 8) :
    gather? parts = some groups := by
  have hparts : parts.length = 8 := (exists_of_mapM h).1.symm.trans hlength
  unfold gather?
  rw [if_neg (by omega), gaps_eq_nil (ne_nil_of_mapM_group? h)]
  dsimp only
  rw [if_pos hparts, h]

/-- Where eight groups are told with a gap, the gap stands for the zeros that are missing. -/
theorem gather?_gap {before after : List (List Char)} {front back : List Nat}
    (hfront : before.mapM group? = some front) (hback : after.mapM group? = some back)
    (hroom : front.length + back.length < 8) :
    gather? (ends before ++ [] :: ends after) =
      some (front ++ List.replicate (8 - (front.length + back.length)) 0 ++ back) := by
  have hbefore := ne_nil_of_mapM_group? hfront
  have hafter := ne_nil_of_mapM_group? hback
  rw [(exists_of_mapM hfront).1, (exists_of_mapM hback).1] at hroom
  have hlength : ∀ parts : List (List Char), (ends parts).length = max parts.length 1 := by
    intro parts
    rcases ends_cases parts with ⟨hnone, hends⟩ | ⟨hsome, hends⟩
    · rw [hends, hnone]
      rfl
    · rw [hends]
      have hpos := List.length_pos_iff.mpr hsome
      omega
  unfold gather?
  rw [if_neg (by rw [List.length_append, List.length_cons, hlength, hlength]; omega),
    gaps_eq hbefore hafter]
  dsimp only
  rw [aroundGap?_eq hbefore hafter hroom, Option.bind_eq_bind, Option.bind_some, hfront, hback]
  rfl

theorem gather?_eq_some {parts : List (List Char)} {groups : List Nat}
    (h : gather? parts = some groups) :
    (parts.mapM group? = some groups ∧ groups.length = 8) ∨
      ∃ before after front back, parts = ends before ++ [] :: ends after ∧
        before.mapM group? = some front ∧ after.mapM group? = some back ∧
        front.length + back.length < 8 ∧
        groups = front ++ List.replicate (8 - (front.length + back.length)) 0 ++ back := by
  unfold gather? at h
  by_cases hmany : 9 < parts.length
  · rw [if_pos hmany] at h
    cases h
  rw [if_neg hmany] at h
  dsimp only at h
  split at h
  · split at h
    · rename_i hparts
      exact .inl ⟨h, (exists_of_mapM h).1.trans hparts⟩
    · cases h
  · rename_i gap hgaps
    obtain ⟨⟨before, after⟩, haround, h⟩ := Option.bind_eq_some_iff.mp h
    dsimp only at h
    obtain ⟨front, hfront, h⟩ := Option.bind_eq_some_iff.mp h
    obtain ⟨back, hback, h⟩ := Option.bind_eq_some_iff.mp h
    have hgap : gap ∈ gaps parts := by rw [hgaps]; exact List.mem_singleton_self gap
    obtain ⟨hparts, hroom⟩ := aroundGap?_eq_some hgap haround
    rw [← (exists_of_mapM hfront).1, ← (exists_of_mapM hback).1] at hroom
    exact .inr ⟨before, after, front, back, hparts, hfront, hback, hroom, (Option.some.inj h).symm⟩
  · cases h

theorem eq_replicate_of_le_zeroRun {groups : List Nat} {k : Nat} (h : k ≤ zeroRun groups) :
    groups = List.replicate k 0 ++ groups.drop k := by
  induction k generalizing groups with
  | zero => rfl
  | succ k ih =>
    cases groups with
    | nil => simp [zeroRun] at h
    | cons g rest =>
      unfold zeroRun at h ih
      rw [List.takeWhile_cons] at h
      split at h
      · rename_i hzero
        have hrest := @ih rest (by simpa using h)
        rw [List.replicate_succ, List.cons_append, List.drop_succ_cons, ← hrest,
          eq_of_beq hzero]
      · simp at h

theorem le_zeroRun_longestRun (groups : List Nat) :
    (longestRun groups).2 ≤ zeroRun (groups.drop (longestRun groups).1) := by
  unfold longestRun
  generalize List.range groups.length = places
  induction places using List.reverseRecOn with
  | nil => exact Nat.zero_le _
  | append_singleton places i ih =>
    rw [List.foldl_append, List.foldl_cons, List.foldl_nil]
    dsimp only
    split
    · exact Nat.le_refl _
    · exact ih

theorem splitGroups?_of_splitOn {cs : List Char} {parts : List (List Char)}
    (hparts : cs.splitOn ':' = parts) (hmany : 3 ≤ parts.length)
    (hdot : ∀ part ∈ parts, '.' ∉ part) : splitGroups? cs = some parts := by
  unfold splitGroups?
  rw [hparts]
  dsimp only
  cases hlast : parts.getLast? with
  | none =>
    rw [List.getLast?_eq_none_iff.mp hlast] at hmany
    simp at hmany
  | some last =>
    have hplain : last.contains '.' = false := by
      rw [← Bool.not_eq_true, List.contains_iff_mem]
      exact hdot last (List.mem_of_getLast? hlast)
    dsimp only
    rw [if_neg (by omega), hplain]
    rfl

theorem mapM_group?_shortHex {groups : List Nat} (hsmall : ∀ g ∈ groups, g < 65536) :
    (groups.map shortHex).mapM group? = some groups :=
  mapM_map_eq_some fun g hg => group?_shortHex (hsmall g hg)

theorem groups?_joinGroups {groups : List Nat} (hlength : groups.length = 8)
    (hsmall : ∀ g ∈ groups, g < 65536) : groups? (joinGroups groups) = some groups := by
  have hparts : (groups.map shortHex).length = 8 := by rw [List.length_map, hlength]
  have hsplit : (joinGroups groups).splitOn ':' = groups.map shortHex := by
    rw [joinGroups_eq, List.splitOn_intercalate ':' (not_mem_shortHex rfl groups)]
    rw [← List.length_pos_iff, hparts]
    decide
  rw [groups?_eq, splitGroups?_of_splitOn hsplit (by omega) (not_mem_shortHex rfl groups),
    Option.bind_some, gather?_whole (mapM_group?_shortHex hsmall) hlength]

theorem groups?_gap {before after : List Nat} (hroom : before.length + after.length < 8)
    (hb : ∀ g ∈ before, g < 65536) (ha : ∀ g ∈ after, g < 65536) :
    groups? (joinGroups before ++ ':' :: ':' :: joinGroups after) =
      some (before ++ List.replicate (8 - (before.length + after.length)) 0 ++ after) := by
  have hends : ∀ groups : List Nat, ∀ part ∈ ends (groups.map shortHex), '.' ∉ part := by
    intro groups part hpart
    rcases ends_cases (groups.map shortHex) with ⟨-, hends⟩ | ⟨-, hends⟩
    · rw [hends, List.mem_singleton] at hpart
      simp [hpart]
    · rw [hends] at hpart
      exact not_mem_shortHex rfl groups part hpart
  have hdot : ∀ part ∈ ends (before.map shortHex) ++ [] :: ends (after.map shortHex),
      '.' ∉ part := by
    intro part hpart
    rcases List.mem_append.mp hpart with hpart | hpart
    · exact hends before part hpart
    rcases List.mem_cons.mp hpart with rfl | hpart
    · simp
    · exact hends after part hpart
  have hsplit := splitOn_gap (not_mem_shortHex rfl before) (not_mem_shortHex rfl after)
  rw [joinGroups_eq, joinGroups_eq, groups?_eq,
    splitGroups?_of_splitOn hsplit (three_le_length_gap _ _) hdot, Option.bind_some,
    gather?_gap (mapM_group?_shortHex hb) (mapM_group?_shortHex ha) hroom]

theorem groups?_writeGroups {groups : List Nat} (hlength : groups.length = 8)
    (hsmall : ∀ g ∈ groups, g < 65536) : groups? (writeGroups groups) = some groups := by
  have hrun := le_zeroRun_longestRun groups
  unfold writeGroups
  generalize longestRun groups = run at hrun
  obtain ⟨start, length⟩ := run
  dsimp only at hrun ⊢
  split
  · exact groups?_joinGroups hlength hsmall
  · have hzeros := eq_replicate_of_le_zeroRun hrun
    rw [List.drop_drop] at hzeros
    have hfits : start + length + (groups.drop (start + length)).length = 8 := by
      have htotal := congrArg List.length hzeros
      rw [List.length_append, List.length_replicate, List.length_drop, List.length_drop,
        hlength] at htotal
      rw [List.length_drop, hlength]
      omega
    have hstart : (groups.take start).length = start := by
      rw [List.length_take, hlength]
      omega
    rw [groups?_gap (by omega) (fun g hg => hsmall g (List.mem_of_mem_take hg))
      (fun g hg => hsmall g (List.mem_of_mem_drop hg)), hstart]
    have hgap : 8 - (start + (groups.drop (start + length)).length) = length := by omega
    rw [hgap, List.append_assoc, ← hzeros, List.take_append_drop]

theorem lt_of_mapM_group? {parts : List (List Char)} {groups : List Nat}
    (h : parts.mapM group? = some groups) : ∀ g ∈ groups, g < 65536 := by
  intro g hg
  obtain ⟨part, hpart⟩ := (exists_of_mapM h).2.2 g hg
  exact group?_lt hpart

theorem groups?_eq_some {cs : List Char} {groups : List Nat} (h : groups? cs = some groups) :
    groups.length = 8 ∧ ∀ g ∈ groups, g < 65536 := by
  rw [groups?_eq] at h
  obtain ⟨parts, -, h⟩ := Option.bind_eq_some_iff.mp h
  rcases gather?_eq_some h with
    ⟨hread, hlength⟩ | ⟨before, after, front, back, -, hfront, hback, hroom, rfl⟩
  · exact ⟨hlength, lt_of_mapM_group? hread⟩
  · constructor
    · simp only [List.length_append, List.length_replicate]
      omega
    · intro g hg
      simp only [List.mem_append, List.mem_replicate] at hg
      rcases hg with (hg | ⟨-, rfl⟩) | hg
      · exact lt_of_mapM_group? hfront g hg
      · decide
      · exact lt_of_mapM_group? hback g hg

end Groups

section Texts

theorem takeWhile_body {body : List Char} (hbody : '%' ∉ body) (rest : List Char)
    (hrest : ∀ c ∈ rest.head?, c = '%') : (body ++ rest).takeWhile (· ≠ '%') = body := by
  have hall : ∀ c ∈ body, decide (c ≠ '%') = true := by
    intro c hc
    rw [decide_eq_true_eq]
    rintro rfl
    exact hbody hc
  rw [List.takeWhile_append_of_pos hall]
  cases rest with
  | nil => simp
  | cons c rest => simp [hrest c rfl]

theorem splitZone?_named {body zone : List Char} (hbody : '%' ∉ body) (hsome : zone ≠ [])
    (hzone : '%' ∉ zone) : splitZone? (body ++ '%' :: zone) = some (body, some zone) := by
  unfold splitZone?
  rw [takeWhile_body hbody ('%' :: zone) (by simp)]
  dsimp only
  rw [List.drop_left]
  simp [hsome, hzone]

theorem splitZone?_plain {body : List Char} (hbody : '%' ∉ body) :
    splitZone? body = some (body, none) := by
  have htake := takeWhile_body hbody [] (by simp)
  rw [List.append_nil] at htake
  unfold splitZone?
  rw [htake]
  dsimp only
  rw [List.drop_length]

theorem splitZone?_eq_some {cs body : List Char} {zone : Option (List Char)}
    (h : splitZone? cs = some (body, zone)) : ∀ z ∈ zone, z <:+ cs ∧ z ≠ [] ∧ '%' ∉ z := by
  rintro z rfl
  unfold splitZone? at h
  dsimp only at h
  split at h
  · cases h
  · rename_i c zone hdrop
    split at h
    · cases h
    · rename_i hzone
      cases h
      have hsuffix : c :: z <:+ cs := hdrop ▸ List.drop_suffix _ cs
      refine ⟨(List.suffix_cons c z).trans hsuffix, ?_⟩
      simpa using hzone

theorem mem_writeGroups {groups : List Nat} {c : Char} (h : c ∈ writeGroups groups) :
    c = ':' ∨ (hexDigit? c).isSome = true := by
  have hjoin : ∀ groups : List Nat, c ∈ joinGroups groups →
      c = ':' ∨ (hexDigit? c).isSome = true := by
    intro groups hc
    rw [joinGroups_eq] at hc
    refine (mem_intercalate hc).imp_right ?_
    rintro ⟨part, hpart, hmem⟩
    obtain ⟨g, -, rfl⟩ := List.mem_map.mp hpart
    exact isSome_hexDigit?_of_mem_shortHex hmem
  unfold writeGroups at h
  dsimp only at h
  split at h
  · exact hjoin _ h
  · simp only [List.mem_append, List.mem_cons] at h
    rcases h with h | h | h | h
    · exact hjoin _ h
    · exact .inl h
    · exact .inl h
    · exact hjoin _ h

theorem exists_colon_mem_writeGroups {groups : List Nat} (hlength : groups.length = 8) :
    ':' ∈ writeGroups groups := by
  unfold writeGroups
  dsimp only
  split
  · obtain ⟨g, h, rest, rfl⟩ : ∃ g h rest, groups = g :: h :: rest := by
      match groups, hlength with
      | g :: h :: rest, _ => exact ⟨g, h, rest, rfl⟩
    rw [joinGroups]
    simp
  · simp

theorem mem_writeOctets {octets : List Nat} {c : Char} (h : c ∈ writeOctets octets) :
    c = '.' ∨ c.isDigit = true := by
  rw [writeOctets_eq] at h
  refine (mem_intercalate h).imp_right ?_
  rintro ⟨part, hpart, hmem⟩
  obtain ⟨n, -, rfl⟩ := List.mem_map.mp hpart
  exact Nat.isDigit_of_mem_toDigits (by decide) (by decide) hmem

theorem read?_of_colon {cs : List Char} (hslash : '/' ∉ cs) (hcolon : ':' ∈ cs) :
    read? cs = (splitZone? cs).bind fun parts => (groups? parts.1).bind fun groups =>
      some (v6 groups parts.2) := by
  have hoctets : octets? cs = none := by
    cases h : octets? cs with
    | none => rfl
    | some octets => exact absurd hcolon (octets?_eq_some h).2.2
  unfold read?
  rw [if_neg (by simpa using hslash), hoctets]
  rfl

theorem read?_write {a : Address} (h : a.Sound) : read? a.write = some a := by
  cases a with
  | v4 octets =>
    obtain ⟨hlength, hsmall⟩ := h
    have hslash : '/' ∉ writeOctets octets := by
      intro hmem
      rcases mem_writeOctets hmem with heq | hdigit
      · cases heq
      · exact Bool.noConfusion hdigit
    unfold read? write
    rw [if_neg (by simpa using hslash), octets?_writeOctets hlength hsmall]
  | v6 groups zone =>
    obtain ⟨hlength, hsmall, hnamed⟩ := h
    have hplain : ∀ c, c ≠ ':' → hexDigit? c = none → c ∉ writeGroups groups := by
      intro c hc hnone hmem
      rcases mem_writeGroups hmem with heq | hsome
      · exact hc heq
      · rw [hnone] at hsome
        exact Bool.noConfusion hsome
    have hslash := hplain '/' (by decide) rfl
    have hpercent := hplain '%' (by decide) rfl
    have hcolon := exists_colon_mem_writeGroups hlength
    cases zone with
    | none =>
      unfold write
      rw [read?_of_colon hslash hcolon, splitZone?_plain hpercent]
      simp [groups?_writeGroups hlength hsmall]
    | some zone =>
      obtain ⟨hsome, hzone, hbare⟩ := hnamed zone rfl
      unfold write
      rw [read?_of_colon (by simp [hslash, hbare]) (by simp [hcolon]),
        splitZone?_named hpercent hsome hzone]
      simp [groups?_writeGroups hlength hsmall]

theorem read?_cases {cs : List Char} {a : Address} (h : read? cs = some a) : '/' ∉ cs ∧
    ((∃ octets, octets? cs = some octets ∧ a = v4 octets) ∨
      ∃ body zone groups, splitZone? cs = some (body, zone) ∧ groups? body = some groups ∧
        a = v6 groups zone) := by
  unfold read? at h
  split at h
  · cases h
  · rename_i hslash
    refine ⟨by simpa using hslash, ?_⟩
    split at h
    · rename_i octets hoctets
      exact .inl ⟨octets, hoctets, (Option.some.inj h).symm⟩
    · obtain ⟨⟨body, zone⟩, hsplit, h⟩ := Option.bind_eq_some_iff.mp h
      obtain ⟨groups, hgroups, h⟩ := Option.bind_eq_some_iff.mp h
      exact .inr ⟨body, zone, groups, hsplit, hgroups, (Option.some.inj h).symm⟩

theorem sound_of_read? {cs : List Char} {a : Address} (h : read? cs = some a) : a.Sound := by
  obtain ⟨hslash, ⟨octets, hoctets, rfl⟩ | ⟨body, zone, groups, hsplit, hgroups, rfl⟩⟩ :=
    read?_cases h
  · exact ⟨(octets?_eq_some hoctets).1, (octets?_eq_some hoctets).2.1⟩
  · obtain ⟨hlength, hsmall⟩ := groups?_eq_some hgroups
    refine ⟨hlength, hsmall, fun z hz => ?_⟩
    obtain ⟨hsuffix, hsome, hzone⟩ := splitZone?_eq_some hsplit z hz
    exact ⟨hsome, hzone, fun hmem => hslash (hsuffix.mem hmem)⟩

theorem read?_write_of_read? {cs : List Char} {a : Address} (h : read? cs = some a) :
    read? a.write = some a :=
  read?_write (sound_of_read? h)

theorem isBlank_of_mem_writeGroups {groups : List Nat} {c : Char} (h : c ∈ writeGroups groups) :
    isBlank c = false := by
  rcases mem_writeGroups h with rfl | hdigit
  · rfl
  · obtain ⟨d, hd⟩ := Option.isSome_iff_exists.mp hdigit
    exact isBlank_eq_false (hexDigit?_bounds hd).2

theorem isBlank_of_mem_writeOctets {octets : List Nat} {c : Char} (h : c ∈ writeOctets octets) :
    isBlank c = false := by
  rcases mem_writeOctets h with rfl | hdigit
  · rfl
  · simp only [Char.isDigit, Bool.and_eq_true, decide_eq_true_eq, ge_iff_le,
      UInt32.le_iff_toNat_le] at hdigit
    have hlow : 48 ≤ c.toNat := hdigit.1
    have hhigh : c.toNat ≤ 57 := hdigit.2
    exact isBlank_eq_false (by omega)

theorem isBlank_of_head?_write {a : Address} {c : Char} (h : c ∈ a.write.head?) :
    isBlank c = false := by
  cases a with
  | v4 octets => exact isBlank_of_mem_writeOctets (List.mem_of_head? h)
  | v6 groups zone =>
    cases zone with
    | none => exact isBlank_of_mem_writeGroups (List.mem_of_head? h)
    | some z =>
      unfold write at h
      rw [List.head?_append] at h
      rcases Option.or_eq_some_iff.mp h with h | ⟨-, h⟩
      · exact isBlank_of_mem_writeGroups (List.mem_of_head? h)
      · rw [← Option.some.inj h]
        rfl

theorem isBlank_of_getLast?_write {cs : List Char} {a : Address} (h : read? cs = some a)
    (hcs : ∀ c ∈ cs.getLast?, isBlank c = false) {c : Char} (hc : c ∈ a.write.getLast?) :
    isBlank c = false := by
  obtain ⟨-, ⟨octets, -, rfl⟩ | ⟨body, zone, groups, hsplit, -, rfl⟩⟩ := read?_cases h
  · exact isBlank_of_mem_writeOctets (List.mem_of_getLast? hc)
  · cases zone with
    | none => exact isBlank_of_mem_writeGroups (List.mem_of_getLast? hc)
    | some z =>
      obtain ⟨⟨front, rfl⟩, hsome, -⟩ := splitZone?_eq_some hsplit z rfl
      have hlast : ∀ front : List Char, (front ++ z).getLast? = z.getLast? := by
        intro front
        rw [List.getLast?_append, Option.or_of_isSome]
        rwa [List.getLast?_isSome]
      apply hcs c
      rw [hlast]
      change c ∈ (writeGroups groups ++ '%' :: z).getLast? at hc
      rwa [List.append_cons, hlast] at hc

theorem trimBy_write {cs : List Char} {a : Address} (h : read? (trimBy isBlank cs) = some a) :
    trimBy isBlank a.write = a.write :=
  trimBy_eq_self (fun _ hc => isBlank_of_head?_write hc) fun _ hc =>
    isBlank_of_getLast?_write h (fun _ hlast => not_of_mem_getLast?_trimBy hlast) hc

theorem isAllBlank_text {cs : List Char} {a : Address} (h : read? cs = some a) :
    isAllBlank a.text = false := by
  unfold isAllBlank text
  rw [String.toList_ofList]
  cases hwrite : a.write with
  | nil =>
    have hread := read?_write_of_read? h
    rw [hwrite] at hread
    cases hread
  | cons c rest =>
    have hc : isBlank c = false := isBlank_of_head?_write (by rw [hwrite]; rfl)
    rw [List.all_cons, hc]
    rfl

end Texts
end Census.Network.Address
