import Mathlib.Data.List.Forall2
import Census.Proofs.Json.Text

/-! Values in the scripts of a page. What is written there holds no character with a meaning in
markup, and it is read token by token as the value with the fields of its objects in order. -/
namespace Census.Json

open Census.Text

/-- A token of a written value; the words are numbers and literals. -/
inductive Token
  | mark (c : Char)
  | text (s : String)
  | word (cs : List Char)
deriving DecidableEq

def Token.text? : Token → Option String
  | text s => some s
  | _ => none

section Tokens

def separated : List (List Token) → List Token
  | [] => []
  | [x] => x
  | x :: y :: rest => x ++ .mark ',' :: separated (y :: rest)

mutual

def tokens : Json → List Token
  | .null => [.word "null".toList]
  | .bool b => [.word (if b then "true" else "false").toList]
  | .number n => [.word (writeNumber n)]
  | .string s => [.text s]
  | .array items => .mark '[' :: separated (itemTokens items) ++ [.mark ']']
  | .object fields => .mark '\x7b' :: separated (fieldTokens fields) ++ [.mark '\x7d']

def itemTokens : List Json → List (List Token)
  | [] => []
  | j :: js => tokens j :: itemTokens js

def fieldTokens : List (String × Json) → List (List Token)
  | [] => []
  | (name, j) :: rest => (.text name :: .mark ':' :: tokens j) :: fieldTokens rest

end

def texts (j : Json) : List String :=
  j.tokens.filterMap Token.text?

end Tokens

section Reading

def marks : List Char := ['[', ']', '\x7b', '\x7d', ',', ':']

theorem all_of_mem_marks (p : Char → Bool) (hp : marks.all p = true) {c : Char} (h : c ∈ marks) :
    p c = true :=
  List.all_eq_true.mp hp c h

def isWord (c : Char) : Bool :=
  !(isSpace c || marks.contains c || c == doubleQuote)

theorem length_readText {cs t rest : List Char} (h : readText cs = some (t, rest)) :
    rest.length < cs.length := by
  have hnext : ∀ {inner : List Char} {c : Char} {t rest : List Char},
      (∀ {t rest}, readText inner = some (t, rest) → rest.length < inner.length) →
      (readText inner).map (fun read => (c :: read.1, read.2)) = some (t, rest) →
      rest.length < inner.length := by
    intro inner c t rest ih h
    obtain ⟨⟨t', rest'⟩, hread, hsame⟩ := Option.map_eq_some_iff.mp h
    cases hsame
    exact ih hread
  fun_induction readText cs generalizing t rest with
  | case3 a b c d inner n hunit hsingle ih =>
    have := hnext ih h
    simp only [List.length_cons]
    omega
  | case6 a b c d n hunit hhalf hhigh a' b' c' d' inner n' hunit' hlow ih =>
    have := hnext ih h
    simp only [List.length_cons]
    omega
  | case10 c inner hunit e hescape ih =>
    have := hnext ih h
    simp only [List.length_cons]
    omega
  | case11 inner =>
    cases h
    exact Nat.lt_succ_self _
  | case13 c inner hunit hescape hquote hplain ih =>
    have := hnext ih h
    simp only [List.length_cons]
    omega
  | _ => cases h

/-- The tokens of a written value; none if a text does not end. -/
def tokens? : List Char → Option (List Token)
  | [] => some []
  | c :: cs =>
    if isSpace c then tokens? cs
    else if marks.contains c then (tokens? cs).map (.mark c :: ·)
    else if c = doubleQuote then
      match _hread : readText cs with
      | none => none
      | some (t, rest) => (tokens? rest).map (.text (String.ofList t) :: ·)
    else (tokens? (cs.dropWhile isWord)).map (.word (c :: cs.takeWhile isWord) :: ·)
termination_by cs => cs.length
decreasing_by
  · exact Nat.lt_succ_self _
  · exact Nat.lt_succ_self _
  · exact Nat.lt_succ_of_lt (length_readText _hread)
  · exact Nat.lt_succ_of_le (List.dropWhile_suffix isWord).length_le

theorem tokens?_mark {c : Char} (h : c ∈ marks) (rest : List Char) :
    tokens? (c :: rest) = (tokens? rest).map (.mark c :: ·) := by
  have hspace : (!isSpace c) = true := all_of_mem_marks (!isSpace ·) (by decide) h
  have hmark : marks.contains c = true := List.contains_iff_mem.mpr h
  rw [tokens?, if_neg (by simpa using hspace), if_pos hmark]

theorem tokens?_space (rest : List Char) : tokens? (' ' :: rest) = tokens? rest := by
  have hspace : isSpace ' ' = true := rfl
  rw [tokens?, if_pos hspace]

theorem tokens?_quote {cs t rest : List Char} (h : readText cs = some (t, rest)) :
    tokens? (doubleQuote :: cs) = (tokens? rest).map (.text (String.ofList t) :: ·) := by
  have hspace : ¬ isSpace doubleQuote = true := by decide
  have hmark : ¬ marks.contains doubleQuote = true := by decide
  rw [tokens?, if_neg hspace, if_neg hmark, if_pos rfl]
  split
  · rename_i hnone
    rw [h] at hnone
    cases hnone
  · rename_i hsome
    rw [h] at hsome
    cases hsome
    rfl

def EndsWord (rest : List Char) : Prop :=
  ∀ c ∈ rest.head?, isWord c = false

theorem tokens?_word {w rest : List Char} (hsome : w ≠ []) (hw : ∀ c ∈ w, isWord c = true)
    (hrest : EndsWord rest) : tokens? (w ++ rest) = (tokens? rest).map (.word w :: ·) := by
  obtain ⟨c, cs, rfl⟩ := List.exists_cons_of_ne_nil hsome
  have hc := hw c List.mem_cons_self
  have hcs : ∀ d ∈ cs, isWord d = true := fun d hd => hw d (List.mem_cons_of_mem c hd)
  have hstop : rest.takeWhile isWord = [] ∧ rest.dropWhile isWord = rest := by
    cases rest with
    | nil => exact ⟨rfl, rfl⟩
    | cons d rest =>
      have hd : isWord d = false := hrest d rfl
      simp [List.takeWhile, List.dropWhile, hd]
  have htake : (cs ++ rest).takeWhile isWord = cs := by
    rw [List.takeWhile_append_of_pos hcs, hstop.1, List.append_nil]
  have hdrop : (cs ++ rest).dropWhile isWord = rest := by
    rw [List.dropWhile_append_of_pos hcs, hstop.2]
  simp only [isWord, Bool.not_eq_true', Bool.or_eq_false_iff, beq_eq_false_iff_ne] at hc
  rw [List.cons_append, tokens?, if_neg (by simp [hc.1.1]), if_neg (by rw [hc.1.2]; decide),
    if_neg hc.2, htake, hdrop]

end Reading

section Escaping

def IsMarkup (c : Char) : Prop :=
  c = '<' ∨ c = '>' ∨ c = '&' ∨ c = singleQuote

instance (c : Char) : Decidable (IsMarkup c) :=
  inferInstanceAs (Decidable (_ ∨ _))

theorem not_isMarkup_of_mem_escapeUnit {n : Nat} {c : Char} (h : c ∈ escapeUnit n) :
    ¬ IsMarkup c := by
  unfold escapeUnit at h
  simp only [List.mem_cons] at h
  rcases h with rfl | rfl | h
  · decide
  · decide
  · have hdigit := isSome_hexDigit?_of_mem_hex h
    rintro (rfl | rfl | rfl | rfl) <;> cases hdigit

/-- A character with a meaning in markup can only stand for itself. -/
theorem escapeChar_of_isMarkup {c : Char} (h : IsMarkup c) : escapeChar c = [c] := by
  rcases h with rfl | rfl | rfl | rfl <;> rfl

theorem not_isMarkup_of_mem_escapeChar {c d : Char} (hc : ¬ IsMarkup c) (h : d ∈ escapeChar c) :
    ¬ IsMarkup d := by
  have hpair : ∀ e, ¬ IsMarkup e → d ∈ ['\\', e] → ¬ IsMarkup d := by
    intro e he hd
    simp only [List.mem_cons, List.not_mem_nil, or_false] at hd
    rcases hd with rfl | rfl
    · decide
    · exact he
  unfold escapeChar at h
  dsimp only at h
  split at h
  · exact hpair c hc h
  split at h
  · exact hpair 'n' (by decide) h
  split at h
  · exact hpair 'r' (by decide) h
  split at h
  · exact hpair 't' (by decide) h
  split at h
  · exact hpair 'b' (by decide) h
  split at h
  · exact hpair 'f' (by decide) h
  split at h
  · rw [List.mem_singleton.mp h]
    exact hc
  split at h
  · exact not_isMarkup_of_mem_escapeUnit h
  · rcases List.mem_append.mp h with h | h
    · exact not_isMarkup_of_mem_escapeUnit h
    · exact not_isMarkup_of_mem_escapeUnit h

theorem flatMap_escapeMarkup_eq_self {cs : List Char} (h : ∀ c ∈ cs, ¬ IsMarkup c) :
    cs.flatMap escapeMarkup = cs := by
  induction cs with
  | nil => rfl
  | cons c cs ih =>
    have hc : escapeMarkup c = [c] := if_neg (h c List.mem_cons_self)
    rw [List.flatMap_cons, hc, ih fun d hd => h d (List.mem_cons_of_mem c hd)]
    rfl

theorem not_isMarkup_of_mem_scriptText {j : Json} {c : Char} (h : c ∈ j.scriptText) :
    ¬ IsMarkup c := by
  obtain ⟨d, -, hd⟩ := List.mem_flatMap.mp h
  unfold escapeMarkup at hd
  split at hd
  · exact not_isMarkup_of_mem_escapeUnit hd
  · rename_i hplain
    rw [List.mem_singleton.mp hd]
    exact hplain

theorem readText_scriptChar (c : Char) (rest : List Char) :
    readText ((escapeChar c).flatMap escapeMarkup ++ rest) =
      (readText rest).map fun (cs, rest) => (c :: cs, rest) := by
  by_cases hc : IsMarkup c
  · have hunit : escapeMarkup c = escapeUnit c.toNat := if_pos hc
    have hsmall : c.toNat < 0xD800 := by rcases hc with rfl | rfl | rfl | rfl <;> decide
    rw [escapeChar_of_isMarkup hc, List.flatMap_singleton, hunit, readText_escapeUnit (.inl hsmall),
      Char.ofNat_toNat]
  · rw [flatMap_escapeMarkup_eq_self fun d => not_isMarkup_of_mem_escapeChar hc,
      readText_escapeChar]

theorem readText_script (cs rest : List Char) :
    readText ((cs.flatMap escapeChar).flatMap escapeMarkup ++ doubleQuote :: rest) =
      some (cs, rest) := by
  induction cs with
  | nil => exact readText_escaped [] rest
  | cons c cs ih =>
    rw [List.flatMap_cons, List.flatMap_append, List.append_assoc, readText_scriptChar, ih]
    rfl

end Escaping

section Words

def isPlain (c : Char) : Bool :=
  c.isAlphanum || c == '-' || c == '+' || c == '.'

theorem isWord_of_isPlain {c : Char} (h : isPlain c = true) : isWord c = true := by
  have hne : ∀ d, isPlain d = false → c ≠ d := by
    rintro d hd rfl
    rw [h] at hd
    cases hd
  have hspace : isSpace c = false := by
    simp [isSpace, hne ' ' rfl, hne '\t' rfl, hne '\n' rfl, hne '\r' rfl]
  have hmark : marks.contains c = false := by
    simp [marks, hne '[' rfl, hne ']' rfl, hne '\x7b' rfl, hne '\x7d' rfl, hne ',' rfl, hne ':' rfl]
  unfold isWord
  rw [hspace, hmark, beq_eq_false_iff_ne.mpr (hne doubleQuote rfl)]
  rfl

theorem not_isMarkup_of_isPlain {c : Char} (h : isPlain c = true) : ¬ IsMarkup c := by
  rintro (rfl | rfl | rfl | rfl) <;> cases h

structure Plain (w : List Char) : Prop where
  ne_nil : w ≠ []
  all : ∀ c ∈ w, isPlain c = true

theorem Plain.of_all {w : List Char} (hw : w ≠ []) (h : w.all isPlain = true) : Plain w :=
  ⟨hw, List.all_eq_true.mp h⟩

theorem Plain.append {v w : List Char} (hv : ∀ c ∈ v, isPlain c = true) (hw : Plain w) :
    Plain (v ++ w) where
  ne_nil := List.append_ne_nil_of_right_ne_nil v hw.ne_nil
  all := List.forall_mem_append.mpr ⟨hv, hw.all⟩

theorem plain_toDigits (n : Nat) : Plain (Nat.toDigits 10 n) where
  ne_nil := Nat.toDigits_ne_nil
  all c hc := by
    have hdigit : c.isDigit = true := Nat.isDigit_of_mem_toDigits (by decide) (by decide) hc
    simp [isPlain, Char.isAlphanum, hdigit]

theorem plain_decimal (d : Number.Decimal) : Plain d.text := by
  have hdigits := (plain_toDigits d.digits).all
  have hzeros : ∀ k, ∀ c ∈ List.replicate k '0', isPlain c = true := by
    intro k c hc
    rw [List.eq_of_mem_replicate hc]
    rfl
  have htake : ∀ k, ∀ c ∈ (Nat.toDigits 10 d.digits).take k, isPlain c = true := fun k c hc =>
    hdigits c (List.mem_of_mem_take hc)
  have hdrop : ∀ k, ∀ c ∈ '.' :: (Nat.toDigits 10 d.digits).drop k, isPlain c = true := fun k =>
    List.forall_mem_cons.mpr ⟨rfl, fun c hc => hdigits c (List.mem_of_mem_drop hc)⟩
  unfold Number.Decimal.text
  dsimp only
  split
  · split
    · exact .append (List.forall_mem_append.mpr ⟨hdigits, hzeros _⟩)
        (.of_all (by decide) (by decide))
    split
    · exact .append (htake _) ⟨List.cons_ne_nil _ _, hdrop _⟩
    · refine ⟨List.cons_ne_nil _ _, ?_⟩
      refine List.forall_mem_cons.mpr ⟨rfl, List.forall_mem_cons.mpr ⟨rfl, ?_⟩⟩
      exact List.forall_mem_append.mpr ⟨hzeros _, hdigits⟩
  · have hexponent : ∀ n, ∀ c ∈ Nat.toDigits 10 n, isPlain c = true := fun n =>
      (plain_toDigits n).all
    refine .append ?fraction ⟨List.cons_ne_nil _ _, ?exponent⟩
    case fraction =>
      split
      · exact hdigits
      · exact List.forall_mem_append.mpr ⟨htake _, hdrop _⟩
    case exponent =>
      refine List.forall_mem_cons.mpr ⟨rfl, List.forall_mem_cons.mpr ⟨?_, ?_⟩⟩
      · split <;> rfl
      · split
        · exact List.forall_mem_cons.mpr ⟨rfl, hexponent _⟩
        · exact hexponent _

theorem plain_floatText (x : Float) : Plain (Number.floatText x).toList := by
  have hsign : ∀ c ∈ if Number.isNegative x then ['-'] else [], isPlain c = true := by
    split
    · exact List.all_eq_true.mp (by decide)
    · exact nofun
  unfold Number.floatText
  dsimp only
  split
  · rw [String.toList_ofList]
    exact .append hsign (.of_all (by decide) (by decide))
  · rw [String.toList_ofList]
    exact .append hsign (plain_decimal _)
  · rw [String.toList_ofList]
    exact .append hsign (.of_all (by decide) (by decide))
  · exact .of_all (by decide) (by decide)

theorem plain_writeNumber (n : Number) : Plain (writeNumber n) := by
  cases n with
  | int n =>
    have hnat : ∀ n : Nat, Plain n.repr.toList := by
      intro n
      rw [Nat.repr, String.toList_ofList]
      exact plain_toDigits n
    cases n with
    | ofNat n => exact hnat n
    | negSucc n =>
      have hminus : (toString (Int.negSucc n)).toList = "-".toList ++ (n + 1).repr.toList :=
        String.toList_append
      change Plain (toString (Int.negSucc n)).toList
      rw [hminus]
      exact .append (List.all_eq_true.mp (by decide)) (hnat (n + 1))
  | float x =>
    unfold writeNumber
    dsimp only
    split
    · exact plain_floatText x
    split
    · split <;> exact .of_all (by decide) (by decide)
    · exact .of_all (by decide) (by decide)

end Words

section Scripts

/-- What is written in a script is read as some tokens, up to whatever ends a word. -/
def ReadsAs (w : List Char) (ts : List Token) : Prop :=
  ∀ rest, EndsWord rest →
    tokens? (w.flatMap escapeMarkup ++ rest) = (tokens? rest).map (ts ++ ·)

theorem Plain.readsAs {w : List Char} (hw : Plain w) : ReadsAs w [.word w] := fun rest hrest => by
  rw [flatMap_escapeMarkup_eq_self fun c hc => not_isMarkup_of_isPlain (hw.all c hc)]
  exact tokens?_word hw.ne_nil (fun c hc => isWord_of_isPlain (hw.all c hc)) hrest

theorem readsAs_text (s : String) : ReadsAs (writeText s) [.text s] := fun rest _ => by
  have htext : (writeText s).flatMap escapeMarkup ++ rest =
      doubleQuote :: ((s.toList.flatMap escapeChar).flatMap escapeMarkup ++ doubleQuote :: rest) := by
    have hquote : escapeMarkup doubleQuote = [doubleQuote] := rfl
    simp [writeText, hquote]
  rw [htext, tokens?_quote (readText_script s.toList rest), String.ofList_toList]
  rfl

theorem endsWord_mark {c : Char} (h : c ∈ marks) (rest : List Char) : EndsWord (c :: rest) := by
  rintro _ ⟨⟩
  have hmark : (!isWord c) = true := all_of_mem_marks (!isWord ·) (by decide) h
  simpa using hmark

theorem escapeMarkup_mark {c : Char} (h : c ∈ marks) : escapeMarkup c = [c] := by
  have hmark : (escapeMarkup c == [c]) = true :=
    all_of_mem_marks (fun c => escapeMarkup c == [c]) (by decide) h
  exact eq_of_beq hmark

theorem readsAs_nil : ReadsAs [] [] := fun rest _ => by
  cases h : tokens? rest <;> simp [h]

theorem ReadsAs.append {v w : List Char} {ts us : List Token} (hv : ReadsAs v ts)
    (hw : ReadsAs w us) (hends : ∀ rest, EndsWord rest → EndsWord (w.flatMap escapeMarkup ++ rest)) :
    ReadsAs (v ++ w) (ts ++ us) := fun rest hrest => by
  rw [List.flatMap_append, List.append_assoc, hv _ (hends rest hrest), hw rest hrest, Option.map_map]
  congr 1
  funext more
  simp

theorem ReadsAs.mark {c : Char} (h : c ∈ marks) {w : List Char} {ts : List Token}
    (hw : ReadsAs w ts) : ReadsAs (c :: w) (.mark c :: ts) := fun rest hrest => by
  rw [List.flatMap_cons, escapeMarkup_mark h, List.singleton_append, List.cons_append,
    tokens?_mark h, hw rest hrest, Option.map_map]
  rfl

theorem ReadsAs.space {w : List Char} {ts : List Token} (hw : ReadsAs w ts) :
    ReadsAs (' ' :: w) ts := fun rest hrest => by
  have hspace : escapeMarkup ' ' = [' '] := rfl
  rw [List.flatMap_cons, hspace, List.singleton_append, List.cons_append, tokens?_space,
    hw rest hrest]

theorem ReadsAs.append_mark {c : Char} (h : c ∈ marks) {v w : List Char} {ts us : List Token}
    (hv : ReadsAs v ts) (hw : ReadsAs w us) : ReadsAs (v ++ c :: w) (ts ++ .mark c :: us) := by
  refine hv.append (hw.mark h) fun rest _ => ?_
  rw [List.flatMap_cons, escapeMarkup_mark h]
  exact endsWord_mark h _

theorem readsAs_joined {ws : List (List Char)} {tss : List (List Token)}
    (h : List.Forall₂ ReadsAs ws tss) : ReadsAs (joined ws) (separated tss) := by
  have hcomma : ',' ∈ marks := by decide
  induction h with
  | nil => exact readsAs_nil
  | cons hw hrest ih =>
    cases hrest with
    | nil => exact hw
    | cons _ _ => exact hw.append_mark hcomma ih.space

theorem ReadsAs.enclosed {first last : Char} (hfirst : first ∈ marks) (hlast : last ∈ marks)
    {w : List Char} {ts : List Token} (hw : ReadsAs w ts) :
    ReadsAs (first :: w ++ [last]) (.mark first :: ts ++ [.mark last]) :=
  (hw.append_mark hlast readsAs_nil).mark hfirst

mutual

theorem readsAs_write (j : Json) : ReadsAs j.write j.tokens := by
  cases j with
  | null => exact (Plain.of_all (by decide) (by decide)).readsAs
  | bool b => cases b <;> exact (Plain.of_all (by decide) (by decide)).readsAs
  | number n => exact (plain_writeNumber n).readsAs
  | string s => exact readsAs_text s
  | array items => exact (readsAs_joined (readsAs_items items)).enclosed (by decide) (by decide)
  | object fields => exact (readsAs_joined (readsAs_fields fields)).enclosed (by decide) (by decide)

theorem readsAs_items (items : List Json) :
    List.Forall₂ ReadsAs (writeItems items) (itemTokens items) := by
  cases items with
  | nil => exact .nil
  | cons j items => exact .cons (readsAs_write j) (readsAs_items items)

theorem readsAs_fields (fields : List (String × Json)) :
    List.Forall₂ ReadsAs (writeFields fields) (fieldTokens fields) := by
  cases fields with
  | nil => exact .nil
  | cons field fields =>
    obtain ⟨name, j⟩ := field
    have hcolon : ':' ∈ marks := by decide
    exact .cons ((readsAs_text name).append_mark hcolon (readsAs_write j).space)
      (readsAs_fields fields)

end

/-- A value in a script is read as the value with its fields in order. -/
theorem tokens?_scriptText (j : Json) : tokens? j.scriptText = some j.sorted.tokens := by
  have hread := readsAs_write j.sorted [] nofun
  rw [List.append_nil] at hread
  rw [scriptText, hread]
  simp [tokens?]

end Scripts

section Order

theorem filterMap_separated (tss : List (List Token)) :
    (separated tss).filterMap Token.text? = tss.flatMap (List.filterMap Token.text?) := by
  induction tss with
  | nil => rfl
  | cons ts tss ih =>
    cases tss with
    | nil => simp [separated]
    | cons us tss =>
      rw [separated, List.filterMap_append, List.flatMap_cons, ← ih]
      rfl

theorem filterMap_enclosed (first last : Char) (ts : List Token) :
    (Token.mark first :: ts ++ [Token.mark last]).filterMap Token.text? =
      ts.filterMap Token.text? := by
  rw [List.cons_append, List.filterMap_cons_none rfl, List.filterMap_append,
    List.filterMap_cons_none rfl, List.filterMap_nil, List.append_nil]

theorem itemTokens_eq (items : List Json) : itemTokens items = items.map tokens := by
  induction items with
  | nil => rfl
  | cons j items ih => rw [itemTokens, ih, List.map_cons]

theorem fieldTokens_eq (fields : List (String × Json)) :
    fieldTokens fields =
      fields.map fun field => .text field.1 :: .mark ':' :: field.2.tokens := by
  induction fields with
  | nil => rfl
  | cons field fields ih => rw [fieldTokens, ih, List.map_cons]

theorem texts_array (items : List Json) : (Json.array items).texts = items.flatMap texts := by
  rw [texts, tokens, filterMap_enclosed, filterMap_separated, itemTokens_eq, List.flatMap_map]
  rfl

theorem texts_object (fields : List (String × Json)) :
    (Json.object fields).texts = fields.flatMap fun field => field.1 :: field.2.texts := by
  rw [texts, tokens, filterMap_enclosed, filterMap_separated, fieldTokens_eq, List.flatMap_map]
  rfl

mutual

theorem texts_sorted (j : Json) : j.sorted.texts.Perm j.texts := by
  cases j with
  | array items =>
    rw [sorted, texts_array, texts_array]
    exact texts_sortedItems items
  | object fields =>
    rw [sorted, texts_object, texts_object]
    exact ((List.mergeSort_perm _ _).flatMap_right _).trans (texts_sortedFields fields)
  | _ => exact .refl _

theorem texts_sortedItems (items : List Json) :
    ((sortedItems items).flatMap texts).Perm (items.flatMap texts) := by
  cases items with
  | nil => exact .refl _
  | cons j items => exact (texts_sorted j).append (texts_sortedItems items)

theorem texts_sortedFields (fields : List (String × Json)) :
    ((sortedFields fields).flatMap fun field => field.1 :: field.2.texts).Perm
      (fields.flatMap fun field => field.1 :: field.2.texts) := by
  cases fields with
  | nil => exact .refl _
  | cons field fields =>
    exact ((texts_sorted field.2).cons field.1).append (texts_sortedFields fields)

end

end Order

end Census.Json
