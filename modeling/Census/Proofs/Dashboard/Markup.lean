import Census.Dashboard.Page
import Census.Proofs.Json.Script

/-! Pages as readers of markup see them. Texts that are inserted in a page are inert: they neither
begin nor end a tag or a value of a tag, and they are read as what they were. So the tags of a page
are those of its template, with as many options as there are labels. -/
namespace Census.Dashboard

open Census.Text

section References

/-- The character that a reference stands for: one of five by its name, or any by its number. -/
def reference? : List Char → Option Char
  | '#' :: digits =>
    if digits = [] then none
    else (digits.mapM asciiDigit?).map fun ds => Char.ofNat (ofDigits ds)
  | name =>
    [("amp", '&'), ("lt", '<'), ("gt", '>'), ("quot", doubleQuote), ("apos", singleQuote)].lookup
      (String.ofList name)

/-- What an inserted text is read as. A reference goes from an ampersand to a semicolon. -/
def unescape : List Char → List Char
  | [] => []
  | c :: cs =>
    if c = '&' then
      match reference? (cs.takeWhile (· ≠ ';')) with
      | some d => d :: unescape (cs.dropWhile (· ≠ ';')).tail
      | none => c :: unescape cs
    else c :: unescape cs
termination_by cs => cs.length
decreasing_by
  · have hsuffix := (List.tail_suffix _).trans (List.dropWhile_suffix (l := cs) (· ≠ ';'))
    exact Nat.lt_succ_of_le hsuffix.length_le
  · exact Nat.lt_succ_self _
  · exact Nat.lt_succ_self _

theorem unescape_reference {name : List Char} {c : Char} (hname : ';' ∉ name)
    (h : reference? name = some c) (rest : List Char) :
    unescape ('&' :: (name ++ ';' :: rest)) = c :: unescape rest := by
  have hall : ∀ d ∈ name, decide (d ≠ ';') = true := fun d hd =>
    decide_eq_true fun heq => hname (heq ▸ hd)
  have htake : (name ++ ';' :: rest).takeWhile (· ≠ ';') = name := by
    rw [List.takeWhile_append_of_pos hall]
    simp
  have hdrop : (name ++ ';' :: rest).dropWhile (· ≠ ';') = ';' :: rest := by
    rw [List.dropWhile_append_of_pos hall]
    simp
  rw [unescape, if_pos rfl, htake, hdrop, h]
  rfl

theorem unescape_escapeChar (c : Char) (rest : List Char) :
    unescape (escapeChar c ++ rest) = c :: unescape rest := by
  unfold escapeChar
  split
  · rename_i h
    subst h
    exact @unescape_reference "amp".toList '&' (by decide) (by decide) rest
  split
  · rename_i h
    subst h
    exact @unescape_reference "lt".toList '<' (by decide) (by decide) rest
  split
  · rename_i h
    subst h
    exact @unescape_reference "gt".toList '>' (by decide) (by decide) rest
  split
  · rename_i h
    subst h
    exact @unescape_reference "#34".toList doubleQuote (by decide) (by decide) rest
  split
  · rename_i h
    subst h
    exact @unescape_reference "#39".toList singleQuote (by decide) (by decide) rest
  · rename_i hplain _ _ _ _
    rw [List.singleton_append, unescape, if_neg hplain]

theorem unescape_escape (s : String) : unescape (escape s) = s.toList := by
  unfold escape
  induction s.toList with
  | nil => simp [unescape]
  | cons c cs ih => rw [List.flatMap_cons, unescape_escapeChar, ih]

/-- A character that neither begins nor ends a tag or a value. -/
def Inert (c : Char) : Prop :=
  c ≠ '<' ∧ c ≠ '>' ∧ c ≠ doubleQuote ∧ c ≠ singleQuote

instance (c : Char) : Decidable (Inert c) :=
  inferInstanceAs (Decidable (_ ∧ _))

theorem inert_of_mem_escape {s : String} {c : Char} (h : c ∈ escape s) : Inert c := by
  have hall : ∀ cs : List Char, (cs.all fun d => decide (Inert d)) = true → c ∈ cs → Inert c :=
    fun cs hcs hc => of_decide_eq_true (List.all_eq_true.mp hcs c hc)
  obtain ⟨d, -, hd⟩ := List.mem_flatMap.mp h
  unfold escapeChar at hd
  split at hd
  · exact hall _ (by decide) hd
  split at hd
  · exact hall _ (by decide) hd
  split at hd
  · exact hall _ (by decide) hd
  split at hd
  · exact hall _ (by decide) hd
  split at hd
  · exact hall _ (by decide) hd
  · rename_i hless hgreater hdouble hsingle
    rw [List.mem_singleton.mp hd]
    exact ⟨hless, hgreater, hdouble, hsingle⟩

end References

section Tags

/-- Where a reader of a page is: in its text, in a tag, or in a value of a tag between quotes. -/
inductive Place
  | text
  | tag
  | value (quote : Char)
deriving DecidableEq

namespace Place

def next (p : Place) (c : Char) : Place :=
  match p with
  | .text => if c = '<' then .tag else .text
  | .tag => if c = '>' then .text else if c = doubleQuote ∨ c = singleQuote then .value c else .tag
  | .value quote => if c = quote then .tag else .value quote

/-- Whether a character belongs to a tag itself: not to a text, and not to a value between quotes. -/
def shows (p : Place) (c : Char) : Bool :=
  match p with
  | .text => c == '<'
  | .tag => true
  | .value quote => c == quote

def isOpen : Place → Bool
  | .text => true
  | .tag => false
  | .value quote => quote == doubleQuote || quote == singleQuote

end Place

def tagsFrom : Place → List Char → Place × List Char
  | p, [] => (p, [])
  | p, c :: cs =>
    let (stop, rest) := tagsFrom (p.next c) cs
    (stop, if p.shows c then c :: rest else rest)

def tags (html : List Char) : List Char :=
  (tagsFrom .text html).2

theorem tagsFrom_append (p : Place) (before after : List Char) :
    tagsFrom p (before ++ after) =
      ((tagsFrom (tagsFrom p before).1 after).1,
        (tagsFrom p before).2 ++ (tagsFrom (tagsFrom p before).1 after).2) := by
  induction before generalizing p with
  | nil => rfl
  | cons c before ih =>
    rw [List.cons_append, tagsFrom, ih, tagsFrom]
    dsimp only
    split <;> rfl

theorem tagsFrom_of_stays {p : Place} {cs : List Char}
    (h : ∀ c ∈ cs, p.next c = p ∧ p.shows c = false) : tagsFrom p cs = (p, []) := by
  induction cs with
  | nil => rfl
  | cons c cs ih =>
    obtain ⟨hnext, hshows⟩ := h c List.mem_cons_self
    rw [tagsFrom, hnext, ih fun d hd => h d (List.mem_cons_of_mem c hd), hshows]
    rfl

theorem tagsFrom_inert {p : Place} (hp : p.isOpen = true) {cs : List Char}
    (h : ∀ c ∈ cs, Inert c) : tagsFrom p cs = (p, []) := by
  refine tagsFrom_of_stays fun c hc => ?_
  obtain ⟨hless, -, hdouble, hsingle⟩ := h c hc
  cases p with
  | text => exact ⟨if_neg hless, beq_eq_false_iff_ne.mpr hless⟩
  | tag => cases hp
  | value quote =>
    have hquote : c ≠ quote := by
      rintro rfl
      simp [Place.isOpen, hdouble, hsingle] at hp
    exact ⟨if_neg hquote, beq_eq_false_iff_ne.mpr hquote⟩

theorem tagsFrom_text {cs : List Char} (h : '<' ∉ cs) : tagsFrom .text cs = (.text, []) := by
  refine tagsFrom_of_stays fun c hc => ?_
  have hless : c ≠ '<' := fun heq => h (heq ▸ hc)
  exact ⟨if_neg hless, beq_eq_false_iff_ne.mpr hless⟩

end Tags

section Templates

def View.marks (v : View) (choice : Choice) : List Bool :=
  (v.options choice).map fun l => decide (l = .text (v.selected choice))

def optionTags (marked : Bool) : List Char :=
  "<option value=\"\" ".toList ++ (if marked then "selected" else "").toList ++ "></option>".toList

theorem tagsFrom_optionMarkup (selected : String) (l : Label) :
    tagsFrom .text (optionMarkup selected l) =
      (.text, optionTags (decide (l = .text selected))) := by
  have hopening : tagsFrom .text "\n              <option value=\"".toList =
      (.value doubleQuote, "<option value=\"".toList) := by decide
  have hvalue : tagsFrom (.value doubleQuote) (escape l.toJson.shown) = (.value doubleQuote, []) :=
    tagsFrom_inert rfl fun c => inert_of_mem_escape
  have hquote : tagsFrom (.value doubleQuote) "\" ".toList = (.tag, "\" ".toList) := by
    decide
  have hmark : ∀ marked : Bool, tagsFrom .tag (if marked then "selected" else "").toList =
      (.tag, (if marked then "selected" else "").toList) := by decide
  have hend : tagsFrom .tag ">".toList = (.text, ">".toList) := by decide
  have htext : tagsFrom .text (escape l.toJson.shown) = (.text, []) :=
    tagsFrom_inert rfl fun c => inert_of_mem_escape
  have hclosing : tagsFrom .text "</option>\n              ".toList =
      (.text, "</option>".toList) := by decide
  have hmarked : (if l = .text selected then "selected" else "") =
      if decide (l = .text selected) then "selected" else "" := by simp
  unfold optionMarkup optionTags
  dsimp only
  rw [hmarked]
  simp only [tagsFrom_append, hopening, hvalue, hquote, hmark, hend, htext, hclosing]
  cases decide (l = .text selected) <;> decide

theorem tagsFrom_options (selected : String) (labels : List Label) :
    tagsFrom .text (labels.flatMap (optionMarkup selected)) =
      (.text, (labels.map fun l => decide (l = .text selected)).flatMap optionTags) := by
  induction labels with
  | nil => rfl
  | cons l labels ih =>
    rw [List.flatMap_cons, tagsFrom_append, tagsFrom_optionMarkup, ih]
    rfl

namespace Part

/-- Whether a part may be inserted at a place: texts outside of tags or in their values, the rest
outside of tags only. -/
def fits (p : Place) : Part → Bool
  | markup _ => true
  | value _ => p.isOpen
  | script _ | options _ => p == .text
  | unknown _ => false

def after (p : Place) : Part → Place
  | markup text => (tagsFrom p text.toList).1
  | _ => p

def tags (marks : Choice → List Bool) (p : Place) : Part → List Char
  | markup text => (tagsFrom p text.toList).2
  | options choice => (marks choice).flatMap optionTags
  | _ => []

theorem tagsFrom_render (v : View) {p : Place} {part : Part} (h : part.fits p = true) :
    ∃ cs, part.render v = .ok cs ∧ tagsFrom p cs = (part.after p, part.tags v.marks p) := by
  cases part with
  | markup text => exact ⟨_, rfl, rfl⟩
  | value name => exact ⟨_, rfl, tagsFrom_inert h fun c => inert_of_mem_escape⟩
  | script name =>
    obtain rfl : p = .text := eq_of_beq h
    refine ⟨_, rfl, tagsFrom_text fun hless => ?_⟩
    exact Json.not_isMarkup_of_mem_scriptText hless (.inl rfl)
  | options choice =>
    obtain rfl : p = .text := eq_of_beq h
    exact ⟨_, rfl, tagsFrom_options (v.selected choice) (v.options choice)⟩
  | unknown name => cases h

end Part

namespace Template

def fits (p : Place) : Template → Bool
  | [] => true
  | part :: parts => part.fits p && fits (part.after p) parts

def tags (marks : Choice → List Bool) (p : Place) : Template → List Char
  | [] => []
  | part :: parts => part.tags marks p ++ tags marks (part.after p) parts

/-- A template whose parts fit is rendered for every view, and only the options add tags to it. -/
theorem tagsFrom_render (v : View) {t : Template} {p : Place} (h : t.fits p = true) :
    ∃ html, t.render v = .ok html ∧ (tagsFrom p html).2 = t.tags v.marks p := by
  induction t generalizing p with
  | nil => exact ⟨[], rfl, rfl⟩
  | cons part parts ih =>
    obtain ⟨hpart, hparts⟩ := Bool.and_eq_true_iff.mp h
    obtain ⟨before, hbefore, hplace⟩ := Part.tagsFrom_render v hpart
    obtain ⟨rest, hrest, htags⟩ := ih hparts
    refine ⟨before ++ rest, ?_, ?_⟩
    · rw [render, hbefore, hrest]
      rfl
    · rw [tagsFrom_append, hplace, tags, htags]

theorem fits_markup {p q : Place} {text : String} {parts : Template}
    (h : (tagsFrom p text.toList).1 = q) (hrest : fits q parts = true) :
    fits p (.markup text :: parts) = true := by
  subst h
  exact hrest

theorem fits_inserted {p : Place} {part : Part} {parts : Template} (h : part.fits p = true)
    (hplace : part.after p = p) (hrest : fits p parts = true) : fits p (part :: parts) = true := by
  unfold fits
  rw [h, hplace, hrest]
  rfl

end Template

theorem fits_page : Template.fits .text page = true := by
  refine
    Template.fits_markup (q := .text) ?_ <| Template.fits_inserted rfl rfl <|
    Template.fits_markup (q := .text) ?_ <| Template.fits_inserted rfl rfl <|
    Template.fits_markup (q := .value doubleQuote) ?_ <| Template.fits_inserted rfl rfl <|
    Template.fits_markup (q := .value doubleQuote) ?_ <| Template.fits_inserted rfl rfl <|
    Template.fits_markup (q := .text) ?_ <| Template.fits_inserted rfl rfl <|
    Template.fits_markup (q := .text) ?_ <| Template.fits_inserted rfl rfl <|
    Template.fits_markup (q := .text) ?_ <| Template.fits_inserted rfl rfl <|
    Template.fits_markup (q := .text) ?_ <| Template.fits_inserted rfl rfl <|
    Template.fits_markup (q := .text) ?_ <| Template.fits_inserted rfl rfl <|
    Template.fits_markup (q := .text) ?_ <| Template.fits_inserted rfl rfl <|
    Template.fits_markup (q := .text) ?_ <| Template.fits_inserted rfl rfl <|
    Template.fits_markup (q := .text) ?_ rfl
  -- the characters of a literal are compared one by one only once they stand in a list
  all_goals
    repeat rw [String.toList_append]
    repeat rw [String.toList_ofList]
    decide +kernel

end Templates

end Census.Dashboard
