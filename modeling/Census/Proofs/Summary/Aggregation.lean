import Census.Proofs.Record.Columns
import Census.Summary
import Mathlib.Algebra.BigOperators.Group.List.Basic
import Mathlib.Algebra.Ring.Int.Defs
import Mathlib.Data.List.Sort
import Mathlib.Data.String.Basic

/-! What a summary makes of the rows of countries. The countries keep the order of the rows and their
counts are added; the sets hold the texts that occur in any row, so that rows may be summed up in parts
and nothing but the countries shows their order. -/
namespace Census

def Cell.ofCount (n : Int) : Cell :=
  .plain (.int n)

structure CountryColumns where
  country : Option String
  count : Option Int
  cities : Option (List (Option String))
  services : Option (List (Option String))
  versions : Option (List (Option String))

structure Row.OfCountry (row : Row) (c : CountryColumns) : Prop where
  country : row.Holds "country" .ofText c.country
  count : row.Holds "number_of_deployments" .ofCount c.count
  cities : row.Holds "cities" .ofTexts c.cities
  services : row.Holds "services" .ofTexts c.services
  versions : row.Holds "versions" .ofTexts c.versions

def CountryColumns.entry (c : CountryColumns) : CountryCount :=
  ⟨c.country.getD "", c.count.getD 0⟩

def CountryColumns.row (c : CountryColumns) : SummaryRow where
  country := c.country.getD ""
  count := c.count.getD 0
  cities := (present c.cities).map .text
  services := (present c.services).map .text
  versions := (present c.versions).map .text

namespace SummaryRow

variable {row : Row} {name : String}

theorem column_of_holds {α : Type} {g : α → Json} {a : Option α}
    (h : row.Holds name (fun x => .plain (g x)) a) : column row name = (a.map g).getD .null := by
  unfold column
  cases a with
  | none =>
    rcases h with h | h
    · rw [h]
      rfl
    · rw [h]
      rfl
  | some a =>
    have hcell : row.lookup name = some (.plain (g a)) := h
    rw [hcell]
    rfl

theorem readCountry_of_text (t : Option String) :
    readCountry ((t.map .string).getD .null) = .ok (t.getD "") := by
  cases t with
  | none => rfl
  | some s =>
    by_cases hs : s = ""
    · subst hs
      rfl
    · simp [readCountry, Json.isEmpty, hs]

theorem readCount_of_int (n : Option Int) :
    readCount ((n.map Json.int).getD .null) = .ok (n.getD 0) := by
  cases n with
  | none => rfl
  | some n =>
    by_cases hn : n = 0
    · subst hn
      rfl
    · simp [readCount, Json.isEmpty, Json.int, Number.isZero, hn]

theorem ofJson?_textOrNull (t : Option String) : Label.ofJson? (Cell.textOrNull t) =
    .ok ((t.filter fun s => s ≠ "").map .text) := by
  cases t with
  | none => rfl
  | some s =>
    have hcell : Cell.textOrNull (some s) = .string s := rfl
    by_cases hs : s = ""
    · subst hs
      rfl
    · simp [hcell, Label.ofJson?, hs, Option.filter_some]

theorem readLabels_of_texts (texts : Option (List (Option String))) :
    readLabels ((texts.map fun ts => .array (ts.map Cell.textOrNull)).getD .null) =
      .ok ((present texts).map .text) := by
  cases texts with
  | none => rfl
  | some texts =>
    have hread : (texts.map Cell.textOrNull).mapM Label.ofJson? =
        .ok (texts.map fun t => (t.filter fun s => s ≠ "").map .text) := by
      apply mapM_of_forall₂ (R := fun j t => j = Cell.textOrNull t)
      · rintro _ t rfl
        exact ofJson?_textOrNull t
      · simp [List.forall₂_map_left_iff, List.forall₂_same]
    have hlabels : (texts.map fun t => (t.filter fun s => s ≠ "").map Label.text).filterMap id =
        (present (some texts)).map .text := by
      simp [present, List.filterMap_map, List.map_filterMap]
    cases texts with
    | nil => rfl
    | cons t texts =>
      rw [← hlabels]
      change ((List.map Cell.textOrNull (t :: texts)).mapM Label.ofJson? >>= _) = _
      rw [hread]
      rfl

theorem ofRow_of_columns {c : CountryColumns} (h : row.OfCountry c) : ofRow row = .ok c.row := by
  unfold ofRow
  rw [column_of_holds (g := Json.int) h.count, column_of_holds (g := Json.string) h.country,
    column_of_holds (g := fun ts => .array _) h.cities,
    column_of_holds (g := fun ts => .array _) h.services,
    column_of_holds (g := fun ts => .array _) h.versions, readCount_of_int, readCountry_of_text,
    readLabels_of_texts, readLabels_of_texts, readLabels_of_texts]
  rfl

end SummaryRow

theorem Label.sort_texts (texts : List String) : Label.sort (texts.map .text) =
    .ok ((texts.mergeSort fun a b => decide (a ≤ b)).map .text) := by
  have hsizes : (texts.map Label.text).find? (fun l => !l.isText) = none := by
    simp [Label.isText]
  have horder : (texts.mergeSort fun a b => decide (a ≤ b)).map Label.text =
      (texts.map Label.text).mergeSort Label.le := by
    apply List.map_mergeSort
    intro a _ b _
    change decide (a ≤ b) = !decide (b < a)
    rw [← decide_not, decide_eq_decide]
    exact not_lt.symm
  unfold Label.sort
  rw [hsizes, horder]
  cases (texts.map Label.text).find? Label.isText <;> rfl

/-- A set of the texts of which a property holds, each once. -/
def Collects (labels : List Label) (P : String → Prop) : Prop :=
  ∃ texts : List String, labels = texts.map .text ∧ texts.Nodup ∧ ∀ t, t ∈ texts ↔ P t

/-- The texts of which a property holds, in the order of their code points. -/
structure Ascends (texts : List String) (P : String → Prop) : Prop where
  strict : texts.Pairwise (· < ·)
  mem : ∀ t, t ∈ texts ↔ P t

theorem Ascends.unique {texts texts' : List String} {P Q : String → Prop} (h : Ascends texts P)
    (h' : Ascends texts' Q) (hiff : ∀ t, P t ↔ Q t) : texts = texts' := by
  apply h.strict.eq_of_mem_iff h'.strict
  intro t
  rw [h.mem, h'.mem, hiff]

namespace Collects

variable {labels : List Label} {P : String → Prop}

theorem insert (h : Collects labels P) (t : String) :
    Collects (Label.insert labels (.text t)) fun u => P u ∨ u = t := by
  obtain ⟨texts, rfl, hnodup, hmem⟩ := h
  have hany : (texts.map Label.text).any (Label.text t).same = texts.contains t := by
    rw [List.any_map, List.contains_eq_any_beq]
    rfl
  unfold Label.insert
  rw [hany]
  by_cases ht : t ∈ texts
  · refine ⟨texts, by simp [ht], hnodup, ?_⟩
    intro u
    rw [hmem]
    constructor
    · exact .inl
    · rintro (hu | rfl)
      · exact hu
      · exact (hmem u).mp ht
  · refine ⟨texts ++ [t], by simp [ht], ?_, ?_⟩
    · simpa using hnodup.concat ht
    · intro u
      simp [hmem]

theorem union (h : Collects labels P) (texts : List String) :
    Collects (Label.union labels (texts.map .text)) fun u => P u ∨ u ∈ texts := by
  unfold Label.union
  induction texts generalizing labels P with
  | nil => simpa using h
  | cons t texts ih => simpa [or_assoc] using ih (h.insert t)

theorem labelsJson_eq (h : Collects labels P) : ∃ texts, Ascends texts P ∧
    Summary.labelsJson labels = .ok (.array (texts.map .string)) := by
  obtain ⟨texts, rfl, hnodup, hmem⟩ := h
  have hperm := texts.mergeSort_perm fun a b => decide (a ≤ b)
  refine ⟨texts.mergeSort fun a b => decide (a ≤ b), ⟨?_, ?_⟩, ?_⟩
  · exact (List.sortedLE_mergeSort.sortedLT_of_nodup (hperm.nodup_iff.mpr hnodup)).pairwise
  · intro t
    rw [hperm.mem_iff, hmem]
  · unfold Summary.labelsJson
    rw [Label.sort_texts]
    simp [Except.map, Label.toJson]

theorem congr {Q : String → Prop} (h : Collects labels P) (hiff : ∀ t, P t ↔ Q t) :
    Collects labels Q := by
  obtain rfl : P = Q := funext fun t => propext (hiff t)
  exact h

theorem mem_iff (h : Collects labels P) {l : Label} : l ∈ labels ↔ ∃ t, P t ∧ l = .text t := by
  obtain ⟨texts, rfl, -, hmem⟩ := h
  simp [hmem, eq_comm]

theorem mem_congr {Q : String → Prop} {labels' : List Label} (h : Collects labels P)
    (h' : Collects labels' Q) (hiff : ∀ t, P t ↔ Q t) (l : Label) : l ∈ labels' ↔ l ∈ labels := by
  rw [h.mem_iff, h'.mem_iff]
  simp only [hiff]

end Collects

section Columns

variable {column : CountryColumns → Option (List (Option String))} {cs ds : List CountryColumns}

def Occurs (column : CountryColumns → Option (List (Option String))) (cs : List CountryColumns)
    (t : String) : Prop :=
  t ≠ "" ∧ ∃ c ∈ cs, ∃ texts ∈ column c, some t ∈ texts

theorem occurs_append {t : String} :
    Occurs column (cs ++ ds) t ↔ Occurs column cs t ∨ Occurs column ds t := by
  unfold Occurs
  simp only [List.mem_append, or_and_right, exists_or, and_or_left]

theorem occurs_singleton {c : CountryColumns} {t : String} :
    Occurs column [c] t ↔ t ∈ present (column c) := by
  unfold Occurs
  rw [mem_present, and_comm]
  simp

theorem Collects.add {labels : List Label} (h : Collects labels (Occurs column cs))
    (c : CountryColumns) : Collects (Label.union labels ((present (column c)).map .text))
      (Occurs column (cs ++ [c])) := by
  apply (h.union (present (column c))).congr
  intro t
  rw [occurs_append, occurs_singleton]

theorem Collects.mem_append {labels more all : List Label}
    (h : Collects labels (Occurs column cs)) (hmore : Collects more (Occurs column ds))
    (hall : Collects all (Occurs column (cs ++ ds))) (l : Label) :
    l ∈ all ↔ l ∈ labels ∨ l ∈ more := by
  rw [h.mem_iff, hmore.mem_iff, hall.mem_iff, ← exists_or]
  apply exists_congr
  intro t
  rw [occurs_append, or_and_right]

end Columns

structure Aggregates (cs : List CountryColumns) (s : Summary) : Prop where
  countries : s.countries = cs.map CountryColumns.entry
  total : s.total = (s.countries.map CountryCount.count).sum
  cities : Collects s.cities (Occurs CountryColumns.cities cs)
  services : Collects s.services (Occurs CountryColumns.services cs)
  versions : Collects s.versions (Occurs CountryColumns.versions cs)

namespace Aggregates

variable {cs ds : List CountryColumns} {s : Summary}

theorem empty : Aggregates [] .empty := by
  have hnone : ∀ column, Collects [] (Occurs column []) := by
    intro column
    exact ⟨[], rfl, .nil, by simp [Occurs]⟩
  exact ⟨rfl, rfl, hnone _, hnone _, hnone _⟩

theorem add (h : Aggregates cs s) (c : CountryColumns) :
    Aggregates (cs ++ [c]) (s.add c.row) where
  countries := by
    rw [List.map_append, ← h.countries]
    rfl
  total := by
    change s.total + c.row.count = ((s.countries ++ [c.entry]).map _).sum
    rw [h.total, List.map_append, List.sum_append]
    simp [CountryColumns.row, CountryColumns.entry]
  cities := h.cities.add c
  services := h.services.add c
  versions := h.versions.add c

theorem foldl (h : Aggregates cs s) (ds : List CountryColumns) :
    Aggregates (cs ++ ds) ((ds.map CountryColumns.row).foldl Summary.add s) := by
  -- the rows already summed up grow at their end while those ahead shrink
  induction ds generalizing cs s with
  | nil => simpa using h
  | cons d ds ih => simpa using ih (h.add d)

end Aggregates

theorem aggregates_aggregate (cs : List CountryColumns) :
    Aggregates cs (Summary.aggregate (cs.map CountryColumns.row)) :=
  Aggregates.empty.foldl cs

theorem ofRows_eq_aggregate {rows : List Row} {cs : List CountryColumns}
    (h : List.Forall₂ Row.OfCountry rows cs) :
    Summary.ofRows rows = .ok (Summary.aggregate (cs.map CountryColumns.row)) := by
  unfold Summary.ofRows
  rw [mapM_of_forall₂ (fun _ _ hc => SummaryRow.ofRow_of_columns hc) h]
  rfl

structure Unites (all s s' : Summary) : Prop where
  countries : all.countries = s.countries ++ s'.countries
  total : all.total = s.total + s'.total
  cities : ∀ l, l ∈ all.cities ↔ l ∈ s.cities ∨ l ∈ s'.cities
  services : ∀ l, l ∈ all.services ↔ l ∈ s.services ∨ l ∈ s'.services
  versions : ∀ l, l ∈ all.versions ↔ l ∈ s.versions ∨ l ∈ s'.versions

theorem Aggregates.unites {cs ds : List CountryColumns} {all s s' : Summary}
    (h : Aggregates cs s) (h' : Aggregates ds s') (hall : Aggregates (cs ++ ds) all) :
    Unites all s s' where
  countries := by
    rw [hall.countries, List.map_append, h.countries, h'.countries]
  total := by
    rw [hall.total, hall.countries, List.map_append, List.map_append, List.sum_append, h.total,
      h'.total, h.countries, h'.countries]
  cities := h.cities.mem_append h'.cities hall.cities
  services := h.services.mem_append h'.services hall.services
  versions := h.versions.mem_append h'.versions hall.versions

structure Shuffled (c d : CountryColumns) : Prop where
  country : c.country = d.country
  count : c.count = d.count
  cities : Option.Rel List.Perm c.cities d.cities
  services : Option.Rel List.Perm c.services d.services
  versions : Option.Rel List.Perm c.versions d.versions

theorem Shuffled.entry_eq {c d : CountryColumns} (h : Shuffled c d) : c.entry = d.entry := by
  unfold CountryColumns.entry
  rw [h.country, h.count]

/-- The rows in another order, and then with other orders of the arrays in them. -/
def Rearranged (cs ds es : List CountryColumns) : Prop :=
  cs.Perm ds ∧ List.Forall₂ Shuffled ds es

theorem map_entry_eq {ds es : List CountryColumns} (h : List.Forall₂ Shuffled ds es) :
    es.map CountryColumns.entry = ds.map CountryColumns.entry := by
  induction h with
  | nil => rfl
  | cons h _ ih => rw [List.map_cons, List.map_cons, h.entry_eq, ih]

theorem mem_present_congr {texts texts' : Option (List (Option String))}
    (h : Option.Rel List.Perm texts texts') (t : String) : t ∈ present texts ↔ t ∈ present texts' := by
  cases h with
  | none => rfl
  | some hperm => exact (hperm.filterMap _).mem_iff

theorem Rearranged.occurs_iff {column : CountryColumns → Option (List (Option String))}
    {cs ds es : List CountryColumns} (h : Rearranged cs ds es)
    (hcolumn : ∀ {c d}, Shuffled c d → Option.Rel List.Perm (column c) (column d)) (t : String) :
    Occurs column cs t ↔ Occurs column es t := by
  obtain ⟨hperm, hshuffled⟩ := h
  have hrows : Occurs column cs t ↔ Occurs column ds t := by
    unfold Occurs
    simp only [hperm.mem_iff]
  rw [hrows]
  -- from here on the rows correspond one by one, and only their arrays differ
  clear hperm hrows
  induction hshuffled with
  | nil => rfl
  | @cons d e ds es h _ ih =>
    rw [← List.singleton_append, ← List.singleton_append (l := es), occurs_append, occurs_append,
      occurs_singleton, occurs_singleton]
    exact or_congr (mem_present_congr (hcolumn h) t) ih

def Summary.written (s : Summary) (cities services versions : List String) : Json :=
  .object [
    ("countries", s.countriesJson),
    ("cities", .array (cities.map .string)),
    ("services", .array (services.map .string)),
    ("versions", .array (versions.map .string)),
    ("total_deployments", .int s.total)]

structure Writes (cs : List CountryColumns) (s : Summary) (cities services versions : List String) :
    Prop where
  json : s.toJson = .ok (s.written cities services versions)
  cities : Ascends cities (Occurs CountryColumns.cities cs)
  services : Ascends services (Occurs CountryColumns.services cs)
  versions : Ascends versions (Occurs CountryColumns.versions cs)

theorem Aggregates.writes {cs : List CountryColumns} {s : Summary} (h : Aggregates cs s) :
    ∃ cities services versions, Writes cs s cities services versions := by
  obtain ⟨cities, hcities, hcitiesJson⟩ := h.cities.labelsJson_eq
  obtain ⟨services, hservices, hservicesJson⟩ := h.services.labelsJson_eq
  obtain ⟨versions, hversions, hversionsJson⟩ := h.versions.labelsJson_eq
  refine ⟨cities, services, versions, ?_, hcities, hservices, hversions⟩
  unfold Summary.toJson
  rw [hcitiesJson, hservicesJson, hversionsJson]
  rfl

/-- Summaries that differ in the order of their countries only. -/
structure Reordered (s s' : Summary) : Prop where
  countries : s'.countries.Perm s.countries
  total : s'.total = s.total
  cities : ∀ l, l ∈ s'.cities ↔ l ∈ s.cities
  services : ∀ l, l ∈ s'.services ↔ l ∈ s.services
  versions : ∀ l, l ∈ s'.versions ↔ l ∈ s.versions

section Rearranged

variable {cs ds es : List CountryColumns} {s s' : Summary}

theorem Aggregates.countries_of_rearranged (h' : Aggregates es s') (horder : Rearranged cs ds es) :
    s'.countries = ds.map CountryColumns.entry := by
  rw [h'.countries, map_entry_eq horder.2]

theorem Aggregates.reordered (h : Aggregates cs s) (h' : Aggregates es s')
    (horder : Rearranged cs ds es) : Reordered s s' := by
  have hcountries : s'.countries.Perm s.countries := by
    rw [h'.countries_of_rearranged horder, h.countries]
    exact horder.1.symm.map _
  constructor
  case countries => exact hcountries
  case total =>
    rw [h.total, h'.total]
    exact (hcountries.map _).sum_eq
  case cities => exact h.cities.mem_congr h'.cities (horder.occurs_iff Shuffled.cities)
  case services => exact h.services.mem_congr h'.services (horder.occurs_iff Shuffled.services)
  case versions => exact h.versions.mem_congr h'.versions (horder.occurs_iff Shuffled.versions)

theorem Writes.json_of_rearranged {cities services versions : List String}
    (h : Writes cs s cities services versions) (h' : Aggregates es s')
    (horder : Rearranged cs ds es) : s'.toJson = .ok (s'.written cities services versions) := by
  obtain ⟨cities', services', versions', hwrites⟩ := h'.writes
  rw [h.cities.unique hwrites.cities (horder.occurs_iff Shuffled.cities),
    h.services.unique hwrites.services (horder.occurs_iff Shuffled.services),
    h.versions.unique hwrites.versions (horder.occurs_iff Shuffled.versions)]
  exact hwrites.json

end Rearranged

/-- Rows of countries are always summed up. The summary says what the rows hold, the summaries of two
parts make that of the whole, and another order of the rows, or of the arrays in them, shows only in
the order of the countries. -/
theorem ofRows_aggregates {rows : List Row} {cs : List CountryColumns}
    (hrows : List.Forall₂ Row.OfCountry rows cs) :
    ∃ s cities services versions, Summary.ofRows rows = .ok s ∧ Aggregates cs s ∧
      Writes cs s cities services versions ∧
      (∀ more ds, List.Forall₂ Row.OfCountry more ds → ∃ s' all,
        Summary.ofRows more = .ok s' ∧ Summary.ofRows (rows ++ more) = .ok all ∧
        Unites all s s') ∧
      ∀ others ds es, List.Forall₂ Row.OfCountry others es → Rearranged cs ds es → ∃ s',
        Summary.ofRows others = .ok s' ∧ s'.countries = ds.map CountryColumns.entry ∧
        Reordered s s' ∧ s'.toJson = .ok (s'.written cities services versions) := by
  have haggregates := aggregates_aggregate cs
  obtain ⟨cities, services, versions, hwrites⟩ := haggregates.writes
  refine ⟨_, cities, services, versions, ofRows_eq_aggregate hrows, haggregates, hwrites, ?_, ?_⟩
  · intro more ds hmore
    have hall := ofRows_eq_aggregate (List.rel_append hrows hmore)
    exact ⟨_, _, ofRows_eq_aggregate hmore, hall,
      haggregates.unites (aggregates_aggregate ds) (aggregates_aggregate (cs ++ ds))⟩
  · intro others ds es hothers horder
    have hothersAggregate := aggregates_aggregate es
    exact ⟨_, ofRows_eq_aggregate hothers, hothersAggregate.countries_of_rearranged horder,
      haggregates.reordered hothersAggregate horder,
      hwrites.json_of_rearranged hothersAggregate horder⟩

def northern : CountryColumns where
  country := some "Norway"
  count := some 3
  cities := some [some "Oslo", none, some "Bergen"]
  services := none
  versions := some []

def northernRow (cities : List Json) : Row :=
  [("country", .plain (.string "Norway")), ("number_of_deployments", .plain (.int 3)),
    ("cities", .plain (.array cities)), ("services", .plain .null), ("versions", .plain (.array []))]

def unplaced : CountryColumns where
  country := none
  count := none
  cities := some [some "", some "Bergen"]
  services := some [some "users", some "Users"]
  versions := none

def unplacedRow : Row :=
  [("country", .plain .null), ("cities", .plain (.array [.string "", .string "Bergen"])),
    ("services", .plain (.array [.string "users", .string "Users"]))]

def osloFirst : Row :=
  northernRow [.string "Oslo", .null, .string "Bergen"]

def bergenFirst : Row :=
  northernRow [.string "Bergen", .null, .string "Oslo"]

theorem ofCountry_osloFirst : osloFirst.OfCountry northern where
  country := rfl
  count := rfl
  cities := rfl
  services := .inr rfl
  versions := rfl

theorem ofCountry_unplacedRow : unplacedRow.OfCountry unplaced where
  country := .inr rfl
  count := .inl rfl
  cities := rfl
  services := rfl
  versions := .inl rfl

def northernTurned : CountryColumns :=
  { northern with cities := some [some "Bergen", none, some "Oslo"] }

theorem rearranged_northern :
    Rearranged [northern, unplaced] [unplaced, northern] [unplaced, northernTurned] := by
  have hunplaced : Shuffled unplaced unplaced :=
    ⟨rfl, rfl, .some (.refl _), .some (.refl _), .none⟩
  have hnorthern : Shuffled northern northernTurned :=
    ⟨rfl, rfl, .some (by decide), .none, .some .nil⟩
  exact ⟨.swap unplaced northern [], .cons hunplaced (.cons hnorthern .nil)⟩

theorem ofRows_northern : ∃ s s' s'' all, Summary.ofRows [osloFirst, unplacedRow] = .ok s ∧
    Aggregates [northern, unplaced] s ∧
    Summary.ofRows [unplacedRow, bergenFirst] = .ok s' ∧
    s'.countries = [⟨"", 0⟩, ⟨"Norway", 3⟩] ∧ Reordered s s' ∧
    Summary.ofRows [unplacedRow] = .ok s'' ∧
    Summary.ofRows [osloFirst, unplacedRow, unplacedRow] = .ok all ∧ Unites all s s'' := by
  have hunplaced : List.Forall₂ Row.OfCountry [unplacedRow] [unplaced] :=
    .cons ofCountry_unplacedRow .nil
  have hturned : bergenFirst.OfCountry northernTurned :=
    { ofCountry_osloFirst with cities := rfl }
  obtain ⟨s, cities, services, versions, hs, haggregates, -, hunites, hreordered⟩ :=
    ofRows_aggregates (.cons ofCountry_osloFirst hunplaced)
  obtain ⟨s', hs', hcountries, hsame, -⟩ :=
    hreordered _ _ _ (.cons ofCountry_unplacedRow (.cons hturned .nil)) rearranged_northern
  obtain ⟨s'', all, hs'', hall, hparts⟩ := hunites _ _ hunplaced
  exact ⟨s, s', s'', all, hs, haggregates, hs', hcountries, hsame, hs'', hall, hparts⟩

end Census
