import Census.Filters.Predicate

/-! The condition of filters against the filters themselves: two conditions have one text and
agreeing parameters exactly where the filters agree. -/
namespace Census

open Time

def Cell.Agrees : Cell → Cell → Prop
  | .plain j, .plain k => j = k
  | .moment m, .moment n => m.agrees n = true
  | _, _ => False

theorem Cell.agrees_refl (c : Cell) : c.Agrees c := by
  cases c with
  | plain j => rfl
  | moment m =>
    unfold Cell.Agrees Moment.agrees
    dsimp only
    generalize m.instant? = instant
    cases instant <;> simp

namespace Filters

def SameParameters (p q : List (String × Cell)) : Prop :=
  ∀ name, Option.Rel Cell.Agrees (p.lookup name) (q.lookup name)

def textCell (s : String) : Option Cell :=
  if s = "" then none else some (.plain (.string s))

def momentCell (m : Option Moment) : Option Cell :=
  m.map .moment

def bindings (cs : List Clause) : List (String × Cell) :=
  cs.map fun c => (c.name, c.value)

theorem lookup_binding (key name : String) (value : Cell) :
    [(name, value)].lookup key = if key = name then some value else none := by
  by_cases h : key = name
  · rw [if_pos h, h, List.lookup_cons_self]
  · rw [if_neg h, List.lookup_cons, beq_false_of_ne h]
    rfl

theorem lookup_momentClause (key name comparison : String) (m : Option Moment) :
    (bindings (momentClause name comparison m)).lookup key =
      if key = name then momentCell m else none := by
  cases m with
  | none => exact (ite_self none).symm
  | some m => exact lookup_binding key name (.moment m)

theorem lookup_textClause (key name column s : String) :
    (bindings (textClause name column s)).lookup key =
      if key = name then textCell s else none := by
  unfold textClause textCell
  by_cases hs : s = ""
  · rw [if_pos hs, if_pos hs]
    exact (ite_self none).symm
  · rw [if_neg hs, if_neg hs]
    exact lookup_binding key name (.plain (.string s))

theorem lookup_parameters (f : Filters) (name : String) :
    f.parameters.lookup name =
      ((((((if name = "from" then momentCell f.start else none).or
        (if name = "to" then momentCell f.stop else none)).or
        (if name = "country" then textCell f.country else none)).or
        (if name = "city" then textCell f.city else none)).or
        (if name = "version" then textCell f.version else none)).or
        (if name = "service" then textCell f.service else none)) := by
  have happend : ∀ p q, bindings (p ++ q) = bindings p ++ bindings q := fun p q => List.map_append
  have hbindings : f.parameters = bindings f.clauses := rfl
  rw [hbindings]
  unfold clauses
  simp only [happend, List.lookup_append, lookup_momentClause, lookup_textClause]

theorem rel_or {u v x y : Option Cell} (h : Option.Rel Cell.Agrees u v)
    (hrest : Option.Rel Cell.Agrees x y) : Option.Rel Cell.Agrees (u.or x) (v.or y) := by
  cases h with
  | some h => exact .some h
  | none => exact hrest

theorem SameParameters.append {p q : List (String × Cell)} (h : SameParameters p q)
    (rest : List (String × Cell)) : SameParameters (p ++ rest) (q ++ rest) := by
  intro name
  rw [List.lookup_append, List.lookup_append]
  refine rel_or (h name) ?_
  cases rest.lookup name with
  | none => exact .none
  | some c => exact .some (Cell.agrees_refl c)

theorem rel_ite {u v : Option Cell} (p : Prop) [Decidable p] (h : Option.Rel Cell.Agrees u v) :
    Option.Rel Cell.Agrees (if p then u else none) (if p then v else none) := by
  split
  · exact h
  · exact .none

theorem rel_textCell {s t : String} :
    Option.Rel Cell.Agrees (textCell s) (textCell t) ↔ s = t := by
  unfold textCell
  by_cases hs : s = "" <;> by_cases ht : t = ""
  · rw [if_pos hs, if_pos ht, hs, ht]
    exact ⟨fun _ => rfl, fun _ => .none⟩
  · rw [if_pos hs, if_neg ht, hs]
    exact ⟨nofun, fun h => absurd h.symm ht⟩
  · rw [if_neg hs, if_pos ht, ht]
    exact ⟨nofun, fun h => absurd h hs⟩
  · rw [if_neg hs, if_neg ht]
    constructor
    · rintro (h | h)
      exact Json.string.inj h
    · rintro rfl
      exact .some rfl

theorem rel_momentCell {m n : Option Moment} :
    Option.Rel Cell.Agrees (momentCell m) (momentCell n) ↔ momentsAgree m n = true := by
  cases m <;> cases n
  · exact ⟨fun _ => rfl, fun _ => .none⟩
  · exact ⟨nofun, nofun⟩
  · exact ⟨nofun, nofun⟩
  · constructor
    · rintro (h | h)
      exact h
    · exact fun h => .some h

theorem sameParameters_iff {a b : Filters} :
    SameParameters a.parameters b.parameters ↔ a.agrees b = true := by
  unfold SameParameters agrees
  simp only [lookup_parameters, Bool.and_eq_true, beq_iff_eq]
  constructor
  · intro h
    have hstart := rel_momentCell.mp (by simpa using h "from")
    have hstop := rel_momentCell.mp (by simpa using h "to")
    have hcountry := rel_textCell.mp (by simpa using h "country")
    have hcity := rel_textCell.mp (by simpa using h "city")
    have hversion := rel_textCell.mp (by simpa using h "version")
    have hservice := rel_textCell.mp (by simpa using h "service")
    exact ⟨⟨⟨⟨⟨hstart, hstop⟩, hcountry⟩, hcity⟩, hversion⟩, hservice⟩
  · rintro ⟨⟨⟨⟨⟨hstart, hstop⟩, hcountry⟩, hcity⟩, hversion⟩, hservice⟩ name
    refine rel_or (rel_or (rel_or (rel_or (rel_or ?_ ?_) ?_) ?_) ?_) ?_
    · exact rel_ite _ (rel_momentCell.mpr hstart)
    · exact rel_ite _ (rel_momentCell.mpr hstop)
    · exact rel_ite _ (rel_textCell.mpr hcountry)
    · exact rel_ite _ (rel_textCell.mpr hcity)
    · exact rel_ite _ (rel_textCell.mpr hversion)
    · exact rel_ite _ (rel_textCell.mpr hservice)

theorem condition_eq (f : Filters) :
    f.condition = match f.clauses.map Clause.text with
      | [] => ""
      | ts => "WHERE " ++ " AND ".intercalate ts := by
  unfold condition
  cases f.clauses <;> rfl

theorem map_text_momentClause {name comparison : String} {m n : Option Moment}
    (h : momentsAgree m n = true) :
    (momentClause name comparison m).map Clause.text =
      (momentClause name comparison n).map Clause.text := by
  cases m <;> cases n <;> first | rfl | cases h

/-- The text does not depend on the values bound. -/
theorem condition_congr {a b : Filters} (h : a.agrees b = true) : a.condition = b.condition := by
  unfold agrees at h
  simp only [Bool.and_eq_true, beq_iff_eq] at h
  obtain ⟨⟨⟨⟨⟨hstart, hstop⟩, hcountry⟩, hcity⟩, hversion⟩, hservice⟩ := h
  rw [condition_eq, condition_eq]
  unfold clauses
  simp only [List.map_append, map_text_momentClause hstart, map_text_momentClause hstop, hcountry,
    hcity, hversion, hservice]

theorem agrees_iff_condition {a b : Filters} : a.agrees b = true ↔
    a.condition = b.condition ∧ SameParameters a.parameters b.parameters := by
  rw [sameParameters_iff]
  exact ⟨fun h => ⟨condition_congr h, h⟩, And.right⟩

end Filters

end Census
