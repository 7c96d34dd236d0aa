import Census.Proofs.Cache.Recast
import Census.Proofs.Dashboard.Session
import Census.Proofs.Store.Outside

/-! What the dashboard shows of records. Calls around caches whose answers differ at most in what
stays inside end in the same markup, whether they run one after another or overlap. -/
namespace Census

variable {σ : Type}

def Cache.SameOutside (c c' : Cache Answer σ) : Prop :=
  c.recast Answer.outside {} = c'.recast Answer.outside {}

namespace Cache.SameOutside

variable {c c' : Cache Answer σ}

theorem live? (h : c.SameOutside c') (key : String) (now limit : Float) :
    (c.live? key now limit).1.map Answer.outside = (c'.live? key now limit).1.map Answer.outside ∧
      (c.live? key now limit).2.SameOutside (c'.live? key now limit).2 := by
  have hlive := recast_live? Answer.outside {} c key now limit
  have hlive' := recast_live? Answer.outside {} c' key now limit
  unfold SameOutside at h
  rw [h, hlive'] at hlive
  obtain ⟨hfound, hcache⟩ := Prod.mk.inj hlive
  exact ⟨hfound.symm, hcache.symm⟩

theorem keep [RandomSource σ] (h : c.SameOutside c') (key : String) {a a' : Answer}
    (ha : a.outside = a'.outside) (time : Float) (cost : Int) :
    (c.keep key a time cost).SameOutside (c'.keep key a' time cost) := by
  unfold SameOutside at h ⊢
  rw [← recast_keep, ← recast_keep, h, ha]

theorem metrics_eq (h : c.SameOutside c') : c.metrics = c'.metrics := by
  have hcounts := congrArg Cache.metrics (show c.recast Answer.outside {} = _ from h)
  change ({} : CacheMetrics) + c.metrics = {} + c'.metrics at hcounts
  rwa [CacheMetrics.zero_add, CacheMetrics.zero_add] at hcounts

theorem usedCost_eq (h : c.SameOutside c') : c.usedCost = c'.usedCost := by
  have hcosts := congrArg Cache.usedCost (show c.recast Answer.outside {} = _ from h)
  exact hcosts

end Cache.SameOutside

namespace Serving

variable {α β : Type}

/-- Operations that are alike around alike caches, and leave them alike. -/
def Alike (R : α → α → Prop) (s s' : Serving σ α) : Prop :=
  ∀ c c', c.SameOutside c' →
    Store.Traced.Alike R (s c).1 (s' c').1 ∧ (s c).2.SameOutside (s' c').2

namespace Alike

variable {R : α → α → Prop} {S : β → β → Prop}

theorem lift {t t' : Store.Traced α} (h : Store.Traced.Alike R t t') :
    Alike R (Serving.lift t : Serving σ α) (Serving.lift t') := fun _ _ hc =>
  ⟨h, hc⟩

theorem ofExcept (r : Except Failure α) :
    Alike Eq (Serving.ofExcept r : Serving σ α) (Serving.ofExcept r) :=
  lift (.refl _)

theorem pure {a a' : α} (h : R a a') :
    Alike R (Pure.pure a : Serving σ α) (Pure.pure a') := fun _ _ hc =>
  ⟨.pure h, hc⟩

theorem bind {s s' : Serving σ α} {next next' : α → Serving σ β} (h : Alike R s s')
    (hnext : ∀ a a', R a a' → Alike S (next a) (next' a')) :
    Alike S (s >>= next) (s' >>= next') := by
  intro c c' hc
  obtain ⟨ht, hafter⟩ := h c c' hc
  rcases ht.result.split with ⟨f, hs, hs'⟩ | ⟨a, a', hs, hs', ha⟩
  · rw [bind_of_error hs, bind_of_error hs']
    exact ⟨⟨ht.events, .failed f⟩, hafter⟩
  · rw [bind_of_ok hs, bind_of_ok hs']
    obtain ⟨hmore, hlast⟩ := hnext a a' ha _ _ hafter
    exact ⟨⟨congrArg₂ (· ++ ·) ht.events hmore.events, hmore.result⟩, hlast⟩

end Alike

end Serving

section Inquiries

variable {settings : Settings} {db db' : Store.Database}

theorem alike_live? (clock : Float) (q : Inquiry) (key : String) :
    Serving.Alike (fun r r' => r.map q.kind.outside = r'.map q.kind.outside)
      (Inquiry.live? settings clock q key : Serving σ _) (Inquiry.live? settings clock q key) := by
  intro c c' hc
  obtain ⟨hfound, hafter⟩ := hc.live? key clock settings.cacheTtlSeconds
  have hsame : ((c.live? key clock settings.cacheTtlSeconds).1.bind (Answer.of? q.kind)).map
      q.kind.outside =
      ((c'.live? key clock settings.cacheTtlSeconds).1.bind (Answer.of? q.kind)).map
        q.kind.outside := by
    rw [← Answer.bind_of?_outside, hfound, Answer.bind_of?_outside]
  exact ⟨.pure hsame, hafter⟩

variable [RandomSource σ]

theorem alike_keep (clock : Float) (q : Inquiry) (key : String) {r r' : q.kind.Result}
    (h : q.kind.outside r = q.kind.outside r') :
    Serving.Alike Eq (Inquiry.keep settings clock q key r : Serving σ Unit)
      (Inquiry.keep settings clock q key r') := by
  intro c c' hc
  have ha : (⟨q.kind, r⟩ : Answer).outside = (⟨q.kind, r'⟩ : Answer).outside :=
    congrArg (Answer.mk q.kind) h
  exact ⟨.refl _, hc.keep key ha clock _⟩

theorem alike_resolve (h : db.SameOutside db') (clock : Float) (q : Inquiry) :
    Serving.Alike (fun r r' => q.kind.outside r = q.kind.outside r')
      (Inquiry.resolve settings db clock q : Serving σ _)
      (Inquiry.resolve settings db' clock q) := by
  refine .bind (.ofExcept _) fun key _ hkey => ?_
  subst hkey
  refine .bind (alike_live? clock q key) fun found found' hfound => ?_
  cases found with
  | some r =>
    obtain ⟨r', rfl, hr⟩ := Option.map_eq_some_iff.mp hfound.symm
    exact .pure hr.symm
  | none =>
    obtain rfl := Option.map_eq_none_iff.mp hfound.symm
    refine .bind (.lift (Store.alike_ask h q)) fun r r' hr => ?_
    exact .bind (alike_keep clock q key hr) fun _ _ _ => .pure hr

end Inquiries

namespace Dashboard

theorem make_outside (f : Filters) (summary unfiltered : Summary) (page : Page) :
    View.make f summary unfiltered page.outside = View.make f summary unfiltered page := by
  unfold View.make
  rw [Page.toJson_outside]

theorem alike_serve [RandomSource σ] {db db' : Store.Database} (settings : Settings)
    (templates : Templates) (h : db.SameOutside db') (clock : Float) (f : Filters) :
    Serving.Alike Eq (serve settings templates db clock f : Serving σ (List Char))
      (serve settings templates db' clock f) := by
  refine .bind (.ofExcept _) fun template _ htemplate => ?_
  subst htemplate
  refine .bind (alike_resolve h clock ⟨.summary, f⟩) fun summary summary' hsummary => ?_
  obtain rfl : summary = summary' := hsummary
  refine .bind (alike_resolve h clock ⟨.summary, .empty⟩) fun unfiltered unfiltered' hsame => ?_
  obtain rfl : unfiltered = unfiltered' := hsame
  refine .bind (alike_resolve h clock ⟨.page, f⟩) fun page page' hpage => ?_
  have houtside : page.outside = page'.outside := hpage
  rw [← make_outside f summary unfiltered page, houtside, make_outside]
  refine .bind (.ofExcept _) fun view _ hview => ?_
  subst hview
  exact .ofExcept _

section Overlapping

def Answering.outside (store : Answering) : Answering where
  summary := store.summary
  page page f := (store.page page f).map Page.outside

def Event.outside : Event → Event
  | .call f => .call f
  | .look i now => .look i now
  | .answer i store now => .answer i store.outside now

theorem Answering.answer_outside (settings : Settings) (store : Answering) (q : Inquiry) :
    store.outside.answer settings q = (store.answer settings q).map Answer.outside := by
  obtain ⟨kind, f⟩ := q
  cases kind with
  | summary =>
    unfold answer outside
    dsimp only
    cases store.summary f <;> rfl
  | page =>
    unfold answer outside
    dsimp only
    cases store.page (Inquiry.wholePage settings) f <;> rfl

namespace Call

def outside (c : Call) : Call :=
  { c with answers := c.answers.map Answer.outside }

theorem next?_outside (c : Call) : c.outside.next? = c.next? := by
  unfold next? outside
  rw [List.length_map]

theorem take_outside (c : Call) (a : Answer) :
    (c.take a).outside = c.outside.take a.outside := by
  unfold take outside
  rw [List.map_append]
  rfl

theorem markup?_outside (c : Call) : c.outside.markup? = c.markup? := by
  obtain ⟨f, template, answers, asking⟩ := c
  unfold markup? outside
  rcases answers with _ | ⟨⟨_ | _, summary⟩, _ | ⟨⟨_ | _, unfiltered⟩, _ | ⟨⟨_ | _, page⟩, _ | _⟩⟩⟩
  all_goals first | rfl | skip
  refine congrArg some ?_
  unfold markup
  dsimp only
  rw [← make_outside f summary unfiltered page]
  rfl

end Call

namespace Session

def outside (s : Session σ) : Session σ where
  cache := s.cache.recast Answer.outside {}
  calls := s.calls.map (Except.map Call.outside)

theorem at?_outside (s : Session σ) (i : Nat) (asking : Bool) :
    s.outside.at? i asking = (s.at? i asking).map fun found => (found.1.outside, found.2) := by
  unfold at? outside
  dsimp only
  rw [List.getElem?_map]
  rcases s.calls[i]? with _ | e | c
  · rfl
  · rfl
  · dsimp only [Option.map, Except.map]
    rw [Call.next?_outside]
    have hasking : c.outside.asking = c.asking := rfl
    rw [hasking]
    split
    · cases c.next? <;> rfl
    · rfl

theorem put_outside (s : Session σ) (i : Nat) (c : Except Failure Call) :
    (s.put i c).outside = s.outside.put i (c.map Call.outside) := by
  unfold put outside
  rw [List.map_set]

theorem look_outside (settings : Settings) (s : Session σ) (i : Nat) (now : Float) (c : Call)
    (q : Inquiry) (key : String) : (s.look settings i now c q key).outside =
      s.outside.look settings i now c.outside q key := by
  have hlive : s.outside.cache.live? key now settings.cacheTtlSeconds = _ :=
    Cache.recast_live? Answer.outside {} s.cache key now settings.cacheTtlSeconds
  unfold look
  dsimp only
  rw [hlive, put_outside]
  dsimp only
  rw [Answer.bind_of?_outside]
  cases (s.cache.live? key now settings.cacheTtlSeconds).1.bind (Answer.of? q.kind) with
  | none => rfl
  | some r =>
    have htake : (c.take ⟨q.kind, r⟩).outside = c.outside.take ⟨q.kind, q.kind.outside r⟩ :=
      c.take_outside ⟨q.kind, r⟩
    dsimp only [Option.map, Except.map]
    rw [htake]
    rfl

variable [RandomSource σ] {settings : Settings} {templates : Templates}

theorem receive_outside (s : Session σ) (i : Nat) (now : Float) (c : Call) (q : Inquiry)
    (key : String) (a : Answer) : (s.receive settings i now c q key a).outside =
      s.outside.receive settings i now c.outside q key a.outside := by
  have hkeep : s.outside.cache.keep key a.outside now (q.cost settings) = _ :=
    Cache.recast_keep Answer.outside {} s.cache key a now (q.cost settings)
  unfold receive
  rw [hkeep, put_outside, Except.map, Call.take_outside]
  rfl

theorem step_outside (s : Session σ) (e : Event) :
    (s.step settings templates e).outside = s.outside.step settings templates e.outside := by
  cases e with
  | call f =>
    have hstart : (Call.start settings templates f).map Call.outside =
        Call.start settings templates f := by
      unfold Call.start
      cases (templates.load settings.uiTemplate).mapError (templateFailure .template) <;> rfl
    have hcalls : (s.calls ++ [Call.start settings templates f]).map (Except.map Call.outside) =
        s.calls.map (Except.map Call.outside) ++ [Call.start settings templates f] := by
      rw [List.map_append, List.map_singleton, hstart]
    exact congrArg (Session.mk (s.cache.recast Answer.outside {})) hcalls
  | look i now =>
    unfold step Event.outside
    dsimp only
    rw [at?_outside]
    cases s.at? i false with
    | none => rfl
    | some found =>
      obtain ⟨c, q⟩ := found
      dsimp only [Option.map]
      cases q.key with
      | error e => exact put_outside s i (.error e)
      | ok key => exact look_outside settings s i now c q key
  | answer i store now =>
    unfold step Event.outside
    dsimp only
    rw [at?_outside]
    cases s.at? i true with
    | none => rfl
    | some found =>
      obtain ⟨c, q⟩ := found
      dsimp only [Option.map]
      rw [Answering.answer_outside]
      cases q.key with
      | error e => exact put_outside s i (.error e)
      | ok key =>
        cases store.answer settings q with
        | error e => exact put_outside s i (.error e)
        | ok a => exact receive_outside s i now c q key a

theorem run_outside (s : Session σ) (events : List Event) :
    (s.run settings templates events).outside =
      s.outside.run settings templates (events.map Event.outside) := by
  induction events generalizing s with
  | nil => rfl
  | cons e rest ih =>
    have hrest := ih (s.step settings templates e)
    rw [step_outside] at hrest
    exact hrest

theorem outcome?_outside (call : Except Failure Call) :
    outcome? (call.map Call.outside) = outcome? call := by
  cases call with
  | error e => rfl
  | ok c => exact c.markup?_outside

theorem outcomes_eq {s s' : Session σ} (h : s.outside = s'.outside) {events events' : List Event}
    (hevents : events.map Event.outside = events'.map Event.outside) :
    (s.run settings templates events).cache.SameOutside (s'.run settings templates events').cache ∧
      (s.run settings templates events).calls.map outcome? =
        (s'.run settings templates events').calls.map outcome? := by
  have hrun : (s.run settings templates events).outside =
      (s'.run settings templates events').outside := by
    rw [run_outside, run_outside, h, hevents]
  have hcalls : ∀ calls : List (Except Failure Call),
      calls.map outcome? = (calls.map (Except.map Call.outside)).map outcome? := by
    intro calls
    rw [List.map_map]
    exact List.map_congr_left fun call _ => (outcome?_outside call).symm
  refine ⟨congrArg Session.cache hrun, ?_⟩
  rw [hcalls, hcalls (s'.run settings templates events').calls]
  exact congrArg (fun s : Session σ => s.calls.map outcome?) hrun

end Session

end Overlapping

end Dashboard

end Census
