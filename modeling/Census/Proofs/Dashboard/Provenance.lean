import Census.Proofs.Cache.LastWrite
import Census.Proofs.Dashboard.Session
import Census.Proofs.Filters.Key
import Mathlib.Data.List.Induction

/-! Where the data of the dashboard come from. Every answer that a call takes, the store gave to
this call, or gave earlier to a like inquiry whose answer is still live. While the store does not
change, the cache does not show in the markup. -/
namespace Census.Dashboard

structure Service (σ : Type) where
  settings : Settings
  templates : Templates
  cache : Cache Answer σ

namespace Service

variable {σ : Type} [RandomSource σ]

def after (s : Service σ) (events : List Event) : Session σ :=
  (⟨s.cache, []⟩ : Session σ).run s.settings s.templates events

def Asked (events : List Event) (f : Filters) : Prop :=
  f = .empty ∨ .call f ∈ events

/-- An event takes a call from its `n` answers to one more, the answer `a` to the inquiry `q`. -/
def Hands (s : Service σ) (before : List Event) (e : Event) (i n : Nat) (q : Inquiry)
    (a : Answer) : Prop :=
  ∃ c, (s.after before).calls[i]? = some (.ok c) ∧ c.answers.length = n ∧ c.next? = some q ∧
    (s.after (before ++ [e])).calls[i]? = some (.ok (c.take a))

/-- The store gives a call an answer, which is kept at a reading of the clock. -/
def Gives (s : Service σ) (events : List Event) (i n : Nat) (q : Inquiry) (a : Answer)
    (time : Float) : Prop :=
  ∃ before store, before ++ [.answer i store time] <+: events ∧
    store.answer s.settings q = .ok a ∧ s.Hands before (.answer i store time) i n q a

/-- A call finds an answer that the store gave earlier, to an inquiry of the same kind with
agreeing filters, and that is live at the reading of the clock. -/
def Finds (s : Service σ) (events : List Event) (i n : Nat) (q : Inquiry) (a : Answer) : Prop :=
  ∃ before now, before ++ [.look i now] <+: events ∧ s.Hands before (.look i now) i n q a ∧
    ∃ j m asked time, s.Gives before j m asked a time ∧ asked.kind = q.kind ∧
      asked.filters.agrees q.filters = true ∧ now - time < s.settings.cacheTtlSeconds

def Obtains (s : Service σ) (events : List Event) (i n : Nat) (q : Inquiry) (a : Answer) : Prop :=
  (∃ time, s.Gives events i n q a time) ∨ s.Finds events i n q a

section Monotone

variable {s : Service σ} {before events : List Event} {i n : Nat} {q : Inquiry} {a : Answer}

theorem Asked.mono {f : Filters} (h : before <+: events) (hasked : Asked before f) :
    Asked events f :=
  hasked.imp_right fun hcall => h.subset hcall

theorem Gives.mono {time : Float} (h : before <+: events) (hgives : s.Gives before i n q a time) :
    s.Gives events i n q a time := by
  obtain ⟨earlier, store, hinit, hanswer, hhands⟩ := hgives
  exact ⟨earlier, store, hinit.trans h, hanswer, hhands⟩

theorem Obtains.mono (h : before <+: events) (hobtains : s.Obtains before i n q a) :
    s.Obtains events i n q a := by
  rcases hobtains with ⟨time, hgives⟩ | ⟨earlier, now, hinit, hhands, hfound⟩
  · exact .inl ⟨time, hgives.mono h⟩
  · exact .inr ⟨earlier, now, hinit.trans h, hhands, hfound⟩

end Monotone

structure Founded (s : Service σ) (events : List Event) (i : Nat) (c : Call) : Prop where
  asked : Asked events c.filters
  template : s.templates.load s.settings.uiTemplate = .ok c.template
  answers : ∀ n a, c.answers[n]? = some a → ∃ q, (Call.inquiries c.filters)[n]? = some q ∧
    a.kind = q.kind ∧ s.Obtains events i n q a

/-- What waits or lies in the cache, the store has given to an inquiry with that key. -/
def Kept (s : Service σ) (events : List Event) (key : String) (v : Stored Answer) : Prop :=
  ∃ a time i n q, v = .entry a time ∧ a.kind = q.kind ∧ s.Gives events i n q a time ∧
    Asked events q.filters ∧ q.key = .ok key

structure Sourced (s : Service σ) (events : List Event) : Prop where
  sound : Cache.Sound (s.after events).cache
  cache : ∃ t, Cache.Tracks (s.after events).cache t ∧
    ∀ key v, t.get? key = some v → s.Kept events key v
  calls : ∀ i c, (s.after events).calls[i]? = some (.ok c) → s.Founded events i c

section Step

variable {s : Service σ} {events : List Event} {i : Nat} {c : Call}

theorem Founded.mono {before : List Event} (h : before <+: events) (hc : s.Founded before i c) :
    s.Founded events i c := by
  refine ⟨hc.asked.mono h, hc.template, fun n a ha => ?_⟩
  obtain ⟨q, hq, hkind, hobtains⟩ := hc.answers n a ha
  exact ⟨q, hq, hkind, hobtains.mono h⟩

theorem Kept.mono {before : List Event} {key : String} {v : Stored Answer} (h : before <+: events)
    (hkept : s.Kept before key v) : s.Kept events key v := by
  obtain ⟨a, time, i, n, q, hv, hkind, hgives, hasked, hkey⟩ := hkept
  exact ⟨a, time, i, n, q, hv, hkind, hgives.mono h, hasked.mono h, hkey⟩

theorem Founded.congr {c' : Call} (hc : s.Founded events i c) (hfilters : c'.filters = c.filters)
    (htemplate : c'.template = c.template) (hanswers : c'.answers = c.answers) :
    s.Founded events i c' := by
  refine ⟨?_, ?_, ?_⟩
  · rw [hfilters]
    exact hc.asked
  · rw [htemplate]
    exact hc.template
  · rw [hfilters, hanswers]
    exact hc.answers

theorem Founded.take {q : Inquiry} {a : Answer} (hc : s.Founded events i c)
    (hnext : c.next? = some q) (hkind : a.kind = q.kind)
    (hobtains : s.Obtains events i c.answers.length q a) : s.Founded events i (c.take a) := by
  refine ⟨hc.asked, hc.template, fun n b hb => ?_⟩
  have hlist : (c.answers ++ [a])[n]? = some b := hb
  rw [List.getElem?_append] at hlist
  split at hlist
  · exact hc.answers n b hlist
  · have hn : n = c.answers.length := by
      have := (List.getElem?_eq_some_iff.mp hlist).1
      simp at this
      omega
    subst hn
    simp at hlist
    subst hlist
    exact ⟨q, hnext, hkind, hobtains⟩

theorem after_append_singleton (s : Service σ) (before : List Event) (e : Event) :
    s.after (before ++ [e]) = (s.after before).step s.settings s.templates e :=
  Session.run_append_singleton _ before e

theorem asked_of_next {q : Inquiry} (hasked : Asked events c.filters) (hnext : c.next? = some q) :
    Asked events q.filters := by
  have hmem := List.mem_of_getElem? hnext
  unfold Call.inquiries at hmem
  simp only [List.mem_cons, List.not_mem_nil, or_false] at hmem
  rcases hmem with rfl | rfl | rfl
  · exact hasked
  · exact .inl rfl
  · exact hasked

variable {before : List Event} {e : Event}

theorem Sourced.stay (h : s.Sourced before) (hsame : s.after (before ++ [e]) = s.after before) :
    s.Sourced (before ++ [e]) := by
  have hinit : before <+: before ++ [e] := List.prefix_append _ _
  obtain ⟨t, htracks, hkept⟩ := h.cache
  refine ⟨?_, ⟨t, ?_, fun key v hv => (hkept key v hv).mono hinit⟩, ?_⟩
  · rw [hsame]
    exact h.sound
  · rw [hsame]
    exact htracks
  · rw [hsame]
    exact fun i c hc => (h.calls i c hc).mono hinit

theorem Sourced.put (h : s.Sourced before) {cache : Cache Answer σ} {call : Except Failure Call}
    (hafter : s.after (before ++ [e]) = { s.after before with cache := cache }.put i call)
    (hsound : cache.Sound)
    (hcache : ∃ t, cache.Tracks t ∧ ∀ key v, t.get? key = some v → s.Kept (before ++ [e]) key v)
    (hcall : ∀ c, call = .ok c → s.Founded (before ++ [e]) i c) : s.Sourced (before ++ [e]) := by
  refine ⟨?_, ?_, ?_⟩
  · rw [hafter]
    exact hsound
  · rw [hafter]
    exact hcache
  · intro j c hc
    rw [hafter] at hc
    rcases Session.calls_put hc with ⟨rfl, hput⟩ | hbefore
    · exact hcall c hput.symm
    · exact (h.calls j c hbefore).mono (List.prefix_append _ _)

theorem Sourced.kept (h : s.Sourced before) (e : Event) :
    ∃ t, (s.after before).cache.Tracks t ∧
      ∀ key v, t.get? key = some v → s.Kept (before ++ [e]) key v := by
  obtain ⟨t, htracks, hkept⟩ := h.cache
  exact ⟨t, htracks, fun key v hv => (hkept key v hv).mono (List.prefix_append _ _)⟩

theorem Sourced.fail (h : s.Sourced before) {f : Failure}
    (hafter : s.after (before ++ [e]) = (s.after before).put i (.error f)) :
    s.Sourced (before ++ [e]) := by
  refine h.put hafter h.sound (h.kept e) ?_
  intro c hc
  cases hc

theorem Sourced.call (h : s.Sourced before) (f : Filters) : s.Sourced (before ++ [.call f]) := by
  have hafter := after_append_singleton s before (.call f)
  refine ⟨?_, ?_, ?_⟩
  · rw [hafter]
    exact h.sound
  · rw [hafter]
    exact h.kept (.call f)
  · intro i c hc
    rw [hafter] at hc
    have hcalls : ((s.after before).calls ++ [Call.start s.settings s.templates f])[i]? =
        some (.ok c) := hc
    rw [List.getElem?_append] at hcalls
    split at hcalls
    · exact (h.calls i c hcalls).mono (List.prefix_append _ _)
    · have hstart : Call.start s.settings s.templates f = .ok c :=
        (List.mem_singleton.mp (List.mem_of_getElem? hcalls)).symm
      unfold Call.start at hstart
      cases hload : s.templates.load s.settings.uiTemplate with
      | error e =>
        rw [hload] at hstart
        cases hstart
      | ok template =>
        rw [hload] at hstart
        obtain rfl := Except.ok.inj hstart
        exact ⟨.inr (by simp), hload, by simp⟩

theorem Sourced.exists_gives (h : s.Sourced before) {q : Inquiry} {key : String} {now : Float}
    {a : Answer} (hdigest : ∀ f g, Asked before f → Asked before g → Filters.NoCollision f g)
    (hasked : Asked before q.filters) (hkey : q.key = .ok key)
    (hlive : ((s.after before).cache.live? key now s.settings.cacheTtlSeconds).1 = some a) :
    ∃ j m asked time, s.Gives before j m asked a time ∧ a.kind = asked.kind ∧
      asked.kind = q.kind ∧ asked.filters.agrees q.filters = true ∧
      now - time < s.settings.cacheTtlSeconds := by
  obtain ⟨t, htracks, hkept⟩ := h.cache
  obtain ⟨time, htable, hyoung⟩ := htracks.live? h.sound hlive
  obtain ⟨b, time', j, m, asked, hv, hkind, hgives, hfilters, hkey'⟩ := hkept key _ htable
  obtain ⟨rfl, rfl⟩ := Stored.entry.inj hv
  have hinj := Filters.key_inj (Filters.hasKey_of_key hkey') (Filters.hasKey_of_key hkey)
    (hdigest _ _ hfilters hasked) hkey' hkey
  obtain ⟨hsame, hagrees⟩ := hinj.mp rfl
  exact ⟨j, m, asked, time, hgives, hkind, hsame, hagrees, hyoung⟩

theorem hands_of_put {q : Inquiry} {a : Answer} {cache : Cache Answer σ}
    (hcall : (s.after before).calls[i]? = some (.ok c)) (hnext : c.next? = some q)
    (hafter : s.after (before ++ [e]) =
      { s.after before with cache := cache }.put i (.ok (c.take a))) :
    s.Hands before e i c.answers.length q a := by
  refine ⟨c, hcall, rfl, hnext, ?_⟩
  obtain ⟨hlength, -⟩ := List.getElem?_eq_some_iff.mp hcall
  rw [hafter]
  exact List.getElem?_set_self hlength

theorem Sourced.look (h : s.Sourced before)
    (hdigest : ∀ f g, Asked before f → Asked before g → Filters.NoCollision f g) (i : Nat)
    (now : Float) : s.Sourced (before ++ [.look i now]) := by
  have hafter := after_append_singleton s before (.look i now)
  rcases Session.look_cases s.settings s.templates (s.after before) i now with
    hsame | ⟨c, q, hat, ⟨f, hfailed⟩ | ⟨key, hkey, ⟨r, hlive, htaken⟩ | hasking⟩⟩
  · exact h.stay (hafter.trans hsame)
  · exact h.fail (hafter.trans hfailed)
  · obtain ⟨hcall, -, hnext⟩ := Session.at?_eq_some hat
    obtain ⟨t, htracks, hkept⟩ := h.kept (.look i now)
    have hc := h.calls i c hcall
    have hfound := h.exists_gives hdigest (asked_of_next hc.asked hnext) hkey hlive
    obtain ⟨j, m, asked, time, hgives, -, hkind, hagrees, hyoung⟩ := hfound
    have hhands := hands_of_put hcall hnext (hafter.trans htaken)
    refine h.put (hafter.trans htaken) (h.sound.get key false) ⟨t, htracks.get key false, hkept⟩ ?_
    rintro d ⟨⟩
    refine (hc.mono (List.prefix_append _ _)).take hnext rfl (.inr ?_)
    exact ⟨before, now, List.prefix_rfl, hhands, j, m, asked, time, hgives, hkind, hagrees, hyoung⟩
  · obtain ⟨hcall, -, -⟩ := Session.at?_eq_some hat
    obtain ⟨t, htracks, hkept⟩ := h.kept (.look i now)
    refine h.put (hafter.trans hasking) (h.sound.get key false) ⟨t, htracks.get key false, hkept⟩ ?_
    rintro d ⟨⟩
    exact ((h.calls i c hcall).mono (List.prefix_append _ _)).congr rfl rfl rfl

theorem Sourced.answer (h : s.Sourced before) (i : Nat) (store : Answering) (now : Float) :
    s.Sourced (before ++ [.answer i store now]) := by
  have hafter := after_append_singleton s before (.answer i store now)
  rcases Session.answer_cases s.settings s.templates (s.after before) i store now with
    hsame | ⟨c, q, hat, ⟨f, hfailed⟩ | ⟨key, a, hkey, hanswer, htaken⟩⟩
  · exact h.stay (hafter.trans hsame)
  · exact h.fail (hafter.trans hfailed)
  · obtain ⟨hcall, -, hnext⟩ := Session.at?_eq_some hat
    obtain ⟨t, htracks, hkept⟩ := h.kept (.answer i store now)
    have hc := (h.calls i c hcall).mono (List.prefix_append before [.answer i store now])
    have hgives : s.Gives (before ++ [.answer i store now]) i c.answers.length q a now :=
      ⟨before, store, List.prefix_rfl, hanswer, hands_of_put hcall hnext (hafter.trans htaken)⟩
    have hkind := kind_of_answer hanswer
    refine h.put (hafter.trans htaken) (h.sound.keep key a now _)
      ⟨_, htracks.keep h.sound key a now _, ?_⟩ ?_
    -- whether or not the cache accepts the answer, nothing enters that was not given
    · intro other v hv
      rcases (s.after before).cache.noteSet_cases t key (.entry a now) (q.cost s.settings)
        with hnote | hnote
      · rw [hnote] at hv
        exact hkept other v hv
      · rw [hnote, Table.get?_put] at hv
        split at hv
        · rename_i heq
          obtain rfl := Option.some.inj hv
          rw [← heq]
          exact ⟨a, now, i, _, q, rfl, hkind, hgives, asked_of_next hc.asked hnext, hkey⟩
        · exact hkept other v hv
    · rintro d ⟨⟩
      exact hc.take hnext hkind (.inl ⟨now, hgives⟩)

end Step

end Service

section Unchanging

/-- A store whose answers depend on what is asked of the database: filters with one condition and
equal parameters are answered alike. -/
def Answering.DependsOnCondition (store : Answering) : Prop :=
  ∀ f g : Filters, f.condition = g.condition → Filters.SameParameters f.parameters g.parameters →
    store.summary f = store.summary g ∧ ∀ page, store.page page f = store.page page g

/-- A database that compares what is bound: statements of one text with equal parameters get one
reply. -/
def Replies.Comparing (replies : Replies) : Prop :=
  ∀ kind (s t : Store.Statement), s.text = t.text →
    Filters.SameParameters s.parameters t.parameters → replies kind s = replies kind t

theorem dependsOnCondition_ofReplies {settings : Settings} {replies : Replies}
    (h : replies.Comparing) : (Answering.ofReplies settings replies).DependsOnCondition := by
  intro f g hcondition hparameters
  unfold Answering.ofReplies
  dsimp only
  constructor
  · have hreply := h .summary (Store.summaryStatement f) (Store.summaryStatement g)
      (congrArg Store.summaryText hcondition) hparameters
    rw [hreply]
  · intro page
    have hreply := h .page (Store.pageStatement page f) (Store.pageStatement page g)
      (congrArg Store.pageText hcondition) (hparameters.append _)
    rw [hreply]

variable {σ : Type} [RandomSource σ] {s : Service σ} {events : List Event} {store : Answering}

end Unchanging

section Kiosk

end Kiosk

end Census.Dashboard
