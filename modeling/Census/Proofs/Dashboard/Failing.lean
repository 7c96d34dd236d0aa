import Census.Proofs.Dashboard.Session
import Census.Proofs.Filters.Window

/-! What can make the dashboard of a query fail: its template, the store, values without a common
order, and bounds of its window that no UTC clock shows. -/
namespace Census

open Time

namespace Filters

theorem shownMoment_some (m : Moment) :
    shownMoment (some m) = match m.toUtc? with
      | some u => .ok (String.ofList (u.writeReading .never))
      | none => .error .dateRange := rfl

theorem exists_shownMoment_iff {m : Option Moment} :
    (∃ s, shownMoment m = .ok s) ↔ HasInstant m := by
  cases m with
  | none => exact ⟨fun _ => hasInstant_none, fun _ => ⟨"", rfl⟩⟩
  | some t =>
    rw [shownMoment_some]
    constructor
    · rintro ⟨s, h⟩
      cases hu : t.toUtc? with
      | none =>
        rw [hu] at h
        cases h
      | some u => exact hasInstant_some (Moment.showsInUtc_of_toUtc? hu)
    · intro h
      obtain ⟨u, hu, -, -⟩ := t.toUtc?_eq (h t rfl)
      rw [hu]
      exact ⟨_, rfl⟩

theorem eq_dateRange_of_shownMoment {m : Option Moment} {e : Failure}
    (h : shownMoment m = .error e) : e = .dateRange ∧ ¬ HasInstant m := by
  constructor
  · cases m with
    | none => cases h
    | some t =>
      rw [shownMoment_some] at h
      split at h
      · cases h
      · exact (Except.error.inj h).symm
  · intro hm
    obtain ⟨s, hs⟩ := exists_shownMoment_iff.mpr hm
    rw [hs] at h
    cases h

theorem eq_dateRange_of_key {f : Filters} {kind : QueryKind} {e : Failure}
    (h : f.key kind = .error e) : e = .dateRange ∧ ¬ f.HasKey := by
  constructor
  · have hmoment : ∀ {m : Option Moment}, canonicalMoment m = .error e → e = .dateRange := by
      intro m hm
      cases m with
      | none => cases hm
      | some t =>
        rw [canonicalMoment_some] at hm
        split at hm
        · cases hm
        · exact (Except.error.inj hm).symm
    cases hcanonical : f.canonical with
    | ok texts =>
      unfold key at h
      rw [hcanonical] at h
      cases h
    | error e' =>
      have he : e' = e := by
        unfold key at h
        rw [hcanonical] at h
        exact Except.error.inj h
      rw [he] at hcanonical
      rcases bind_eq_error.mp hcanonical with hstart | ⟨start, -, hcanonical⟩
      · exact hmoment hstart
      rcases bind_eq_error.mp hcanonical with hstop | ⟨stop, -, hcanonical⟩
      · exact hmoment hstop
      · cases hcanonical
  · intro hkey
    obtain ⟨k, hk⟩ := exists_key hkey kind
    rw [hk] at h
    cases h

end Filters

theorem mapError_eq_error {α : Type} {x : Except Failure α} {wrap : Failure → Failure} {e : Failure}
    (h : x.mapError wrap = .error e) : ∃ cause, x = .error cause ∧ wrap cause = e := by
  cases x with
  | ok a => cases h
  | error cause => exact ⟨cause, rfl, Except.error.inj h⟩

theorem mapError_eq_ok {α : Type} {x : Except Failure α} {wrap : Failure → Failure} {a : α}
    (h : x.mapError wrap = .ok a) : x = .ok a := by
  cases x with
  | ok b => exact congrArg _ (Except.ok.inj h)
  | error cause => cases h

theorem Serving.ofExcept_bind {σ α β : Type} (a : α) (f : α → Serving σ β) (c : Cache Answer σ) :
    (Serving.ofExcept (.ok a) >>= f) c = f a c :=
  rfl

theorem Serving.bind_eq_error {σ α β : Type} {s : Serving σ α} {f : α → Serving σ β}
    {c : Cache Answer σ} {e : Failure} (h : ((s >>= f) c).1.result = .error e) :
    (s c).1.result = .error e ∨
      ∃ a, (s c).1.result = .ok a ∧ (f a (s c).2).1.result = .error e := by
  cases hs : (s c).1.result with
  | error e' =>
    rw [Serving.bind_of_error hs] at h
    exact .inl (congrArg _ (Except.error.inj h))
  | ok a =>
    rw [Serving.bind_of_ok hs] at h
    exact .inr ⟨a, rfl, h⟩

namespace Dashboard

section Parts

theorem eq_mixedOrder_of_sort {labels : List Label} {e : Failure}
    (h : Label.sort labels = .error e) : ∃ left right, e = .mixedOrder left right := by
  unfold Label.sort at h
  split at h
  · exact ⟨_, _, (Except.error.inj h).symm⟩
  · cases h

theorem eq_mixedOrder_of_labelsJson {labels : List Label} {e : Failure}
    (h : Summary.labelsJson labels = .error e) : ∃ left right, e = .mixedOrder left right := by
  unfold Summary.labelsJson at h
  cases hsort : Label.sort labels with
  | ok sorted =>
    rw [hsort] at h
    cases h
  | error e' =>
    rw [hsort] at h
    rw [← Except.error.inj h]
    exact eq_mixedOrder_of_sort hsort

theorem eq_of_make {f : Filters} {summary unfiltered : Summary} {page : Page} {e : Failure}
    (h : View.make f summary unfiltered page = .error e) :
    (∃ left right, e = .mixedOrder left right) ∨ (e = .dateRange ∧ ¬ f.HasKey) := by
  unfold View.make at h
  rcases bind_eq_error.mp h with h | ⟨cities, -, h⟩
  · exact .inl (eq_mixedOrder_of_labelsJson h)
  rcases bind_eq_error.mp h with h | ⟨_, -, h⟩
  · exact .inl (eq_mixedOrder_of_sort h)
  rcases bind_eq_error.mp h with h | ⟨_, -, h⟩
  · exact .inl (eq_mixedOrder_of_sort h)
  rcases bind_eq_error.mp h with h | ⟨_, -, h⟩
  · exact .inl (eq_mixedOrder_of_sort h)
  rcases bind_eq_error.mp h with h | ⟨_, -, h⟩
  · exact .inl (eq_mixedOrder_of_sort h)
  rcases bind_eq_error.mp h with h | ⟨_, -, h⟩
  · obtain ⟨he, hnone⟩ := Filters.eq_dateRange_of_shownMoment h
    exact .inr ⟨he, fun hkey => hnone hkey.1⟩
  rcases bind_eq_error.mp h with h | ⟨_, -, h⟩
  · obtain ⟨he, hnone⟩ := Filters.eq_dateRange_of_shownMoment h
    exact .inr ⟨he, fun hkey => hnone hkey.2⟩
  · cases h

/-- Only a name that no view has keeps a template from being rendered. -/
theorem isA_template_of_render {view : View} {template : Template} {e : Failure}
    (h : template.render view = .error e) : e.isA .template = true := by
  induction template with
  | nil => cases h
  | cons part rest ih =>
    rcases bind_eq_error.mp h with h | ⟨before, -, h⟩
    · cases part with
      | unknown name =>
        rw [← Except.error.inj h]
        rfl
      | markup text => cases h
      | value name => cases h
      | script name => cases h
      | options choice => cases h
    · rcases bind_eq_error.mp h with h | ⟨after, -, h⟩
      · exact ih h
      · cases h

theorem resolve_error {σ : Type} [RandomSource σ] {settings : Settings} {db : Store.Database}
    {clock : Float} {q : Inquiry} {c : Cache Answer σ} {e : Failure}
    (h : (Inquiry.resolve settings db clock q c).1.result = .error e) :
    q.key = .error e ∨ (q.ask settings db).result = .error e := by
  cases hkey : q.key with
  | error e' =>
    rw [resolve_of_error hkey] at h
    exact .inl (congrArg _ (Except.error.inj h))
  | ok key =>
    cases hfound : (c.live? key clock settings.cacheTtlSeconds).1.bind (Answer.of? q.kind) with
    | some r =>
      rw [resolve_of_some hkey hfound] at h
      cases h
    | none =>
      rw [(resolve_of_none hkey hfound).1] at h
      exact .inr h

end Parts

inductive Cause (settings : Settings) (templates : Templates) (db : Store.Database) (f : Filters) :
    Failure → Prop
  | loading {cause : Failure} (h : templates.load settings.uiTemplate = .error cause) :
      Cause settings templates db f (templateFailure .template cause)
  | store {q : Inquiry} {e : Failure} (hq : q ∈ Call.inquiries f)
      (h : (q.ask settings db).result = .error e) : Cause settings templates db f e
  /-- Columns of texts hold texts only, which have an order. -/
  | order (left right : String) : Cause settings templates db f (.mixedOrder left right)
  | rendering {template : Template} {view : View} {cause : Failure}
      (hload : templates.load settings.uiTemplate = .ok template)
      (h : template.render view = .error cause) : Cause settings templates db f (.rendering cause)

section Serve

variable {σ : Type} [RandomSource σ] {settings : Settings} {templates : Templates}
  {db : Store.Database} {clock : Float} {f : Filters} {c : Cache Answer σ}

theorem cause_of_serve (hkey : f.HasKey) {e : Failure}
    (h : (serve settings templates db clock f c).1.result = .error e) :
    Cause settings templates db f e := by
  -- the store answers where it is asked, for there is a key to ask under
  have hresolve : ∀ {q : Inquiry}, q ∈ Call.inquiries f → ∀ {c : Cache Answer σ},
      (Inquiry.resolve settings db clock q c).1.result = .error e →
        Cause settings templates db f e := by
    intro q hq c hq'
    rcases resolve_error hq' with hnone | hasked
    · have hfilters : q.filters.HasKey := by
        simp only [Call.inquiries, List.mem_cons, List.not_mem_nil, or_false] at hq
        rcases hq with rfl | rfl | rfl
        · exact hkey
        · exact ⟨Filters.hasInstant_none, Filters.hasInstant_none⟩
        · exact hkey
      exact absurd hfilters (Filters.eq_dateRange_of_key hnone).2
    · exact .store hq hasked
  rcases Serving.bind_eq_error h with h | ⟨template, hload, h⟩
  · obtain ⟨cause, hload, rfl⟩ := mapError_eq_error h
    exact .loading hload
  rcases Serving.bind_eq_error h with h | ⟨summary, -, h⟩
  · exact hresolve (by simp [Call.inquiries]) h
  rcases Serving.bind_eq_error h with h | ⟨unfiltered, -, h⟩
  · exact hresolve (by simp [Call.inquiries]) h
  rcases Serving.bind_eq_error h with h | ⟨page, -, h⟩
  · exact hresolve (by simp [Call.inquiries]) h
  rcases Serving.bind_eq_error h with h | ⟨view, -, h⟩
  · rcases eq_of_make h with ⟨left, right, rfl⟩ | ⟨-, hnone⟩
    · exact .order left right
    · exact absurd hkey hnone
  · obtain ⟨cause, hrender, rfl⟩ := mapError_eq_error h
    unfold templateFailure
    rw [if_pos (isA_template_of_render hrender)]
    exact .rendering (mapError_eq_ok hload) hrender

def unshown (settings : Settings) (templates : Templates) : Failure :=
  match templates.load settings.uiTemplate with
  | .ok _ => .dateRange
  | .error cause => templateFailure .template cause

theorem serve_of_not_hasKey (hkey : ¬ f.HasKey) :
    serve settings templates db clock f c = (⟨[], .error (unshown settings templates)⟩, c) := by
  have hnone : Inquiry.key ⟨.summary, f⟩ = .error .dateRange := by
    cases h : f.key .summary with
    | ok k => exact absurd (Filters.hasKey_of_key h) hkey
    | error e => exact (Filters.eq_dateRange_of_key h).1 ▸ h
  unfold serve unshown
  cases templates.load settings.uiTemplate with
  | error cause => rfl
  | ok template =>
    have hresolve : (Inquiry.resolve settings db clock ⟨.summary, f⟩ c) =
        (⟨[], .error .dateRange⟩, c) := resolve_of_error hnone
    have hload : Except.mapError (templateFailure .template) (.ok template) = .ok template := rfl
    rw [hload, Serving.ofExcept_bind, Serving.bind_of_error (e := .dateRange) (by rw [hresolve]),
      hresolve]

/-- The keys of a query and the bounds that its page shows exist exactly where UTC shows the bounds
that were given. Its dashboard then fails for causes of its own only; otherwise it asks nothing,
leaves the cache alone and fails. -/
theorem serve_of_selection {precision : Number.Precision} {now : Moment} {q : Selection}
    (hnow : now.offset.getD 0 = 0) (hf : Filters.ofSelection precision settings now q = .ok f)
    (templates : Templates) (db : Store.Database) (clock : Float) (c : Cache Answer σ) :
    let shown := ∀ m, m ∈ q.start ∨ m ∈ q.stop → m.ShowsInUtc
    (∀ kind, (∃ k, f.key kind = .ok k) ↔ shown) ∧
      ((∃ s, Filters.shownMoment f.start = .ok s) ∧ (∃ s, Filters.shownMoment f.stop = .ok s) ↔
        shown) ∧
      (shown → ∀ e, (serve settings templates db clock f c).1.result = .error e →
        Cause settings templates db f e) ∧
      (¬ shown → serve settings templates db clock f c =
        (⟨[], .error (unshown settings templates)⟩, c)) := by
  intro shown
  have hshown : f.HasKey ↔ shown := Filters.hasKey_iff hnow hf
  refine ⟨fun kind => ?_, ?_, fun h e he => ?_, fun h => ?_⟩
  · rw [← hshown]
    exact ⟨fun ⟨k, hk⟩ => Filters.hasKey_of_key hk, fun h => Filters.exists_key h kind⟩
  · rw [← hshown, Filters.exists_shownMoment_iff, Filters.exists_shownMoment_iff]
    rfl
  · exact cause_of_serve (hshown.mpr h) he
  · exact serve_of_not_hasKey fun hkey => h (hshown.mp hkey)

def epoch : Moment := ⟨0, some 0, Moment.inRange_zero, Moment.offset_lt_utc⟩

def beforeUtc : Selection where
  start := some ⟨firstReading, some (3600 * second), by decide, Moment.offset_lt_hour⟩
  stop := some epoch
  country := ""
  city := ""
  version := ""
  service := ""

/-- An accepted query whose dashboard fails although its template and the store are sound. -/
theorem serve_beforeUtc : ∃ (f : Filters) (c : Cache Answer Congruential),
    Filters.ofSelection .double {} epoch beforeUtc = .ok f ∧
      Cache.make ⟨1, 1, 1⟩ ⟨1, []⟩ = .ok c ∧
      serve {} [("index.html", .ok [])] {} 0.0 f c = (⟨[], .error .dateRange⟩, c) := by
  have hnow : epoch.offset.getD 0 = 0 := rfl
  have hf : Filters.ofSelection .double {} epoch beforeUtc = .ok (Filters.ofWindow beforeUtc
      ⟨firstReading, some (3600 * second), by decide, by decide⟩ epoch) := rfl
  have hbefore : ¬ ∀ m, m ∈ beforeUtc.start ∨ m ∈ beforeUtc.stop → m.ShowsInUtc :=
    fun hall => absurd (hall _ (.inl rfl)).1 (by decide)
  refine ⟨_, _, hf, rfl, ?_⟩
  exact (serve_of_selection hnow hf [("index.html", .ok [])] {} 0.0 _).2.2.2 hbefore

end Serve

end Dashboard

end Census
