import Census.Proofs.Filters.Condition
import Census.Proofs.Store.Retrieval

/-! What the statements of queries are made of. Their texts consist of fixed parts and of one clause for
each field that the filters give, never of values; the placeholders in them are the names of the values
bound, one for one. -/
namespace Census

/-- How far a placeholder has been read. -/
inductive Progress
  | text
  | sign
  | name (read : List Char)
  | format
deriving DecidableEq

namespace Progress

def next : Progress → Char → Progress
  | text, c => if c = '%' then sign else text
  | sign, c => if c = '(' then name [] else text
  | name read, c => if c = ')' then format else name (read ++ [c])
  | format, _ => text

def named : Progress → Char → List String
  | name read, c => if c = ')' then [String.ofList read] else []
  | _, _ => []

def namesFrom : Progress → List Char → List String
  | _, [] => []
  | p, c :: cs => p.named c ++ namesFrom (p.next c) cs

theorem namesFrom_append (p : Progress) (xs ys : List Char) :
    namesFrom p (xs ++ ys) = namesFrom p xs ++ namesFrom (xs.foldl next p) ys := by
  induction xs generalizing p with
  | nil => rfl
  | cons x xs ih => simp [namesFrom, ih]

end Progress

def placeholders (text : String) : List String :=
  Progress.namesFrom .text text.toList

/-- A text that ends outside of placeholders, with the names in it. -/
structure Complete (text : String) (names : List String) : Prop where
  names : Progress.namesFrom .text text.toList = names
  ends : text.toList.foldl Progress.next .text = .text

namespace Complete

variable {a b : String} {ns ms ks : List String}

theorem empty : Complete "" [] :=
  ⟨rfl, rfl⟩

theorem append (ha : Complete a ns) (hb : Complete b ms) : Complete (a ++ b) (ns ++ ms) where
  names := by
    rw [String.toList_append, Progress.namesFrom_append, ha.ends, ha.names, hb.names]
  ends := by
    rw [String.toList_append, List.foldl_append, ha.ends, hb.ends]

end Complete

inductive Field
  | start | stop | country | city | version | service
deriving DecidableEq

namespace Field

def all : List Field :=
  [start, stop, country, city, version, service]

def name : Field → String
  | start => "from"
  | stop => "to"
  | country => "country"
  | city => "city"
  | version => "version"
  | service => "service"

def column : Field → String
  | start | stop => "time"
  | country => "country"
  | city => "city"
  | version => "mg_version"
  | service => "service"

def comparison : Field → String
  | start => ">="
  | stop => "<="
  | country | city | version | service => "="

def clause (φ : Field) : String :=
  φ.column ++ " " ++ φ.comparison ++ " %(" ++ φ.name ++ ")s"

def value (f : Filters) : Field → Cell
  | start => Store.momentOrNull f.start
  | stop => Store.momentOrNull f.stop
  | country => .plain (.string f.country)
  | city => .plain (.string f.city)
  | version => .plain (.string f.version)
  | service => .plain (.string f.service)

def Given (f : Filters) : Field → Prop
  | start => f.start ≠ none
  | stop => f.stop ≠ none
  | country => f.country ≠ ""
  | city => f.city ≠ ""
  | version => f.version ≠ ""
  | service => f.service ≠ ""

instance (f : Filters) : DecidablePred (Given f)
  | start => inferInstanceAs (Decidable (f.start ≠ none))
  | stop => inferInstanceAs (Decidable (f.stop ≠ none))
  | country => inferInstanceAs (Decidable (f.country ≠ ""))
  | city => inferInstanceAs (Decidable (f.city ≠ ""))
  | version => inferInstanceAs (Decidable (f.version ≠ ""))
  | service => inferInstanceAs (Decidable (f.service ≠ ""))

theorem mem_all (φ : Field) : φ ∈ all := by
  cases φ <;> decide

theorem complete_clause (φ : Field) : Complete φ.clause [φ.name] := by
  cases φ <;> constructor <;> decide +kernel

theorem complete_clauses (φs : List Field) :
    Complete (" AND ".intercalate (φs.map clause)) (φs.map name) := by
  have hand : Complete " AND " [] := by
    constructor <;> decide +kernel
  induction φs with
  | nil => exact .empty
  | cons φ φs ih =>
    cases φs with
    | nil =>
      rw [List.map_singleton, String.intercalate_singleton]
      exact complete_clause φ
    | cons ψ φs =>
      rw [List.map_cons, List.map_cons, String.intercalate_cons_cons]
      exact ((complete_clause φ).append hand).append ih

end Field

namespace Filters

def given (f : Filters) : List Field :=
  Field.all.filter fun φ => φ.Given f

theorem mem_given {f : Filters} {φ : Field} : φ ∈ f.given ↔ φ.Given f := by
  simp [given, φ.mem_all]

theorem given_congr {f g : Filters} (h : ∀ φ, Field.Given f φ ↔ Field.Given g φ) :
    f.given = g.given := by
  unfold given
  apply List.filter_congr
  intro φ _
  exact decide_eq_decide.mpr (h φ)

def conditionOn (φs : List Field) : String :=
  match φs with
  | [] => ""
  | φs => "WHERE " ++ " AND ".intercalate (φs.map Field.clause)

theorem complete_conditionOn (φs : List Field) : Complete (conditionOn φs) (φs.map Field.name) := by
  have hwhere : Complete "WHERE " [] := by
    constructor <;> decide +kernel
  cases φs with
  | nil => exact .empty
  | cons φ φs => exact hwhere.append (Field.complete_clauses (φ :: φs))

theorem momentClause_eq (name comparison : String) (m : Option Time.Moment) :
    momentClause name comparison m =
      if m ≠ none then [⟨name, "time", comparison, Store.momentOrNull m⟩] else [] := by
  cases m with
  | none => rfl
  | some m => rfl

theorem textClause_eq (name column s : String) :
    textClause name column s = if s ≠ "" then [⟨name, column, "=", .plain (.string s)⟩] else [] := by
  unfold textClause
  rw [ite_not]

def clauseOn (f : Filters) (φ : Field) : Clause :=
  ⟨φ.name, φ.column, φ.comparison, φ.value f⟩

theorem clauses_eq (f : Filters) : f.clauses = f.given.map f.clauseOn := by
  have hcons : ∀ φ φs, ((φ :: φs).filter fun φ => φ.Given f).map f.clauseOn =
      (if φ.Given f then [f.clauseOn φ] else []) ++
        (φs.filter fun φ => φ.Given f).map f.clauseOn := by
    intro φ φs
    by_cases h : φ.Given f <;> simp [h]
  -- the same six clauses on both sides, each there or not, nested to the left and to the right
  unfold clauses given Field.all
  simp only [momentClause_eq, textClause_eq, hcons, List.filter_nil, List.map_nil,
    List.append_nil, List.append_assoc]
  rfl

theorem condition_eq_conditionOn (f : Filters) : f.condition = conditionOn f.given := by
  rw [condition_eq, clauses_eq, List.map_map]
  cases f.given <;> rfl

theorem parameters_eq (f : Filters) :
    f.parameters = f.given.map fun φ => (φ.name, φ.value f) := by
  unfold parameters
  rw [clauses_eq, List.map_map]
  rfl

end Filters

namespace Store

variable {before after condition : String} {ns ms ks : List String}

theorem complete_around (hbefore : Complete before ns) (hcondition : Complete condition ms)
    (hafter : Complete after ks) : Complete (around before condition after) (ns ++ ms ++ ks) := by
  have hblank : Complete " " [] := by
    constructor <;> decide +kernel
  unfold around
  split
  next h =>
    -- an empty condition names nothing, and one blank takes its place
    subst h
    have hnone : ms = [] := hcondition.names.symm
    subst hnone
    simpa using (hbefore.append hblank).append hafter
  next =>
    simpa using (hbefore.append ((hblank.append hcondition).append hblank)).append hafter

theorem complete_pageText (h : Complete condition ms) :
    Complete (pageText condition) (ms ++ ["limit", "offset"]) := by
  have hpage : Complete (pageText condition) ([] ++ ms ++ ["limit", "offset"]) := by
    refine complete_around ⟨?_, ?_⟩ h ⟨?_, ?_⟩
    -- the characters of a literal are compared one by one only once they stand in a list
    all_goals
      repeat rw [String.toList_append]
      repeat rw [String.toList_ofList]
      decide +kernel
  exact hpage

theorem complete_summaryText (h : Complete condition ms) :
    Complete (summaryText condition) (ms ++ []) := by
  have hsummary : Complete (summaryText condition) ([] ++ ms ++ []) := by
    refine complete_around ⟨?_, ?_⟩ h ⟨?_, ?_⟩
    all_goals
      repeat rw [String.toList_append]
      repeat rw [String.toList_ofList]
      decide +kernel
  exact hsummary

/-- A statement whose text is made of a template and of the fields given, and which binds each of its
placeholders once: those of the fields to what the filters hold, the others to their own values. -/
structure Builds (f : Filters) (template : String → String) (own : List (String × Cell))
    (st : Statement) : Prop where
  text : st.text = template (Filters.conditionOn f.given)
  placeholders : placeholders st.text = st.parameters.map Prod.fst
  nodup : (st.parameters.map Prod.fst).Nodup
  bound : ∀ name v, (name, v) ∈ st.parameters ↔
    (∃ φ : Field, φ.Given f ∧ φ.name = name ∧ φ.value f = v) ∨ (name, v) ∈ own

theorem builds_append (f : Filters) {template : String → String} {own : List (String × Cell)}
    (hcomplete : ∀ {condition ms}, Complete condition ms →
      Complete (template condition) (ms ++ own.map Prod.fst))
    (hnodup : (Field.all.map Field.name ++ own.map Prod.fst).Nodup) :
    Builds f template own ⟨template f.condition, f.parameters ++ own⟩ := by
  have hnames : (f.parameters ++ own).map Prod.fst =
      f.given.map Field.name ++ own.map Prod.fst := by
    rw [List.map_append, Filters.parameters_eq, List.map_map]
    rfl
  rw [Filters.condition_eq_conditionOn]
  constructor
  case text => rfl
  case placeholders =>
    rw [hnames]
    exact (hcomplete (Filters.complete_conditionOn f.given)).names
  case nodup =>
    rw [hnames]
    apply List.Nodup.sublist _ hnodup
    exact (List.filter_sublist.map Field.name).append_right _
  case bound =>
    intro name v
    simp [Filters.parameters_eq, Filters.mem_given]

def pageParameters (page : PageMetadata) : List (String × Cell) :=
  [("limit", .plain (.int page.limit)), ("offset", .plain (.int page.offset))]

theorem builds_page (page : PageMetadata) (f : Filters) :
    Builds f pageText (pageParameters page) (pageStatement page f) := by
  have hnodup : (Field.all.map Field.name ++ ["limit", "offset"]).Nodup := by decide
  exact builds_append f complete_pageText hnodup

theorem builds_summary (f : Filters) : Builds f summaryText [] (summaryStatement f) := by
  have hnodup : (Field.all.map Field.name ++ []).Nodup := by decide
  have hbuilds : Builds f summaryText [] ⟨summaryText f.condition, f.parameters ++ []⟩ :=
    builds_append f complete_summaryText hnodup
  rwa [List.append_nil] at hbuilds

/-- One query is sent, made as said, if the database is to be asked; else none is. -/
def Asks (events : List Event) (asked : Prop) (made : Statement → Prop) : Prop :=
  (asked → ∃ st, queries events = [st] ∧ made st) ∧ (¬ asked → queries events = [])

def texts (events : List Event) : List String :=
  (queries events).map Statement.text

theorem Asks.texts_eq {events events' : List Event} {asked : Prop} {made made' : Statement → Prop}
    (h : Asks events asked made) (h' : Asks events' asked made')
    (htext : ∀ st st', made st → made' st' → st.text = st'.text) : texts events = texts events' := by
  unfold texts
  by_cases hasked : asked
  · obtain ⟨st, hsent, hmade⟩ := h.1 hasked
    obtain ⟨st', hsent', hmade'⟩ := h'.1 hasked
    rw [hsent, hsent', List.map_singleton, List.map_singleton, htext st st' hmade hmade']
  · rw [h.2 hasked, h'.2 hasked]

section Queries

variable (settings : Settings) (db : Database) (f : Filters)

theorem asks_retrievePage (page : PageMetadata) : Asks (retrievePage settings db page f).events
    (Allowed settings page ∧ Connects settings db) (Builds f pageText (pageParameters page)) := by
  by_cases hallowed : Allowed settings page
  · have hretrieval := retrieval_page settings db f hallowed
    constructor
    · intro h
      exact ⟨_, hretrieval.queries_of_connects h.2, builds_page page f⟩
    · intro h
      exact hretrieval.queries_of_not_connects fun hconnects => h ⟨hallowed, hconnects⟩
  · obtain ⟨e, he, -⟩ := retrievePage_of_not_allowed settings db f hallowed
    constructor
    · intro h
      exact absurd h.1 hallowed
    · intro _
      rw [he]
      rfl

theorem asks_retrieveSummary : Asks (retrieveSummary settings db f).events (Connects settings db)
    (Builds f summaryText []) := by
  have hretrieval := retrieval_summary settings db f
  constructor
  · intro h
    exact ⟨_, hretrieval.queries_of_connects h, builds_summary f⟩
  · exact hretrieval.queries_of_not_connects

/-- No value is part of a text: each query sent is built from the fields that filters give, so filters
that give the same fields are sent as the same texts. -/
theorem queries_withoutValues :
    (∀ page, Asks (retrievePage settings db page f).events
      (Allowed settings page ∧ Connects settings db) (Builds f pageText (pageParameters page))) ∧
    Asks (retrieveSummary settings db f).events (Connects settings db) (Builds f summaryText []) ∧
    ∀ g : Filters, (∀ φ, Field.Given f φ ↔ Field.Given g φ) →
      (∀ page, texts (retrievePage settings db page f).events =
        texts (retrievePage settings db page g).events) ∧
      texts (retrieveSummary settings db f).events =
        texts (retrieveSummary settings db g).events := by
  have hpage := asks_retrievePage settings db
  have hsummary := asks_retrieveSummary settings db
  refine ⟨hpage f, hsummary f, ?_⟩
  intro g hgiven
  have hfields := Filters.given_congr hgiven
  constructor
  · intro page
    apply (hpage f page).texts_eq (hpage g page)
    intro st st' hst hst'
    rw [hst.text, hst'.text, hfields]
  · apply (hsummary f).texts_eq (hsummary g)
    intro st st' hst hst'
    rw [hst.text, hst'.text, hfields]

def quoting : Filters :=
  { Filters.empty with
    start := some midnight, country := "' OR '1' = '1", version := "%(limit)s \x7bwhere\x7d %%" }

def modest : Filters :=
  { Filters.empty with start := some midnight, country := "Serbia", version := "v0.14.0" }

theorem queries_quoting : (∀ φ, Field.Given quoting φ ↔ Field.Given modest φ) ∧
    quoting.given = [.start, .country, .version] ∧
    (∃ st, queries (retrievePage {} {} ⟨0, 0, 10⟩ quoting).events = [st] ∧
      Builds quoting pageText (pageParameters ⟨0, 0, 10⟩) st) ∧
    texts (retrievePage {} {} ⟨0, 0, 10⟩ quoting).events =
      texts (retrievePage {} {} ⟨0, 0, 10⟩ modest).events ∧
    texts (retrieveSummary {} {} quoting).events = texts (retrieveSummary {} {} modest).events := by
  have hgiven : ∀ φ, Field.Given quoting φ ↔ Field.Given modest φ := by
    intro φ
    cases φ <;> decide +kernel
  have hasked : Allowed {} ⟨0, 0, 10⟩ ∧ Connects {} {} := by
    unfold Allowed Connects
    decide +kernel
  obtain ⟨hpage, -, htexts⟩ := queries_withoutValues {} {} quoting
  obtain ⟨hpages, hsummaries⟩ := htexts modest hgiven
  exact ⟨hgiven, by decide +kernel, (hpage ⟨0, 0, 10⟩).1 hasked, hpages ⟨0, 0, 10⟩, hsummaries⟩

end Queries

end Store

end Census
