import Census.Proofs.Cache.Sound
import Census.Proofs.Dashboard.Failing
import Census.Proofs.Dashboard.Provenance

/-! The lookups of a dashboard, each with a store and a clock of its own, so that any of them may fail
whatever the others do. A dashboard is served from three lookups in a row, or it fails with the first
of them that does, and what was kept until then stays kept. -/
namespace Census

/-- When a lookup happens: the store that it may ask, and the clock as it looks and as it keeps. -/
structure Occasion where
  store : Store.Database
  looked : Float
  kept : Float

variable {σ : Type}

namespace Dashboard

def lookups (first second third : Occasion) (f : Filters) : List (Occasion × Inquiry) :=
  [first, second, third].zip (Call.inquiries f)

def Holds (settings : Settings) (now : Float) (c : Cache Answer σ) (q : Inquiry)
    (r : q.kind.Result) : Prop :=
  c.closed = false ∧ ∃ key time, q.key = .ok key ∧
    c.lookup key = some (.entry ⟨q.kind, r⟩ time) ∧ now - time < settings.cacheTtlSeconds

theorem holds_iff {settings : Settings} {now : Float} {c : Cache Answer σ} {q : Inquiry}
    {key : String} (hkey : q.key = .ok key) {r : q.kind.Result} :
    Holds settings now c q r ↔
      (c.live? key now settings.cacheTtlSeconds).1.bind (Answer.of? q.kind) = some r := by
  unfold Holds
  rw [Cache.live?_eq]
  constructor
  · rintro ⟨hopen, key', time, hkey', hlookup, hyoung⟩
    obtain rfl := Except.ok.inj (hkey.symm.trans hkey')
    have hget : (c.get key false).1 = some (.entry ⟨q.kind, r⟩ time) := by
      unfold Cache.get
      rw [hopen]
      exact hlookup
    rw [hget]
    simp [Cache.fresh?, hyoung]
  · intro h
    obtain ⟨a, hfresh, ha⟩ := Option.bind_eq_some_iff.mp h
    rw [eq_of_of? ha] at hfresh
    unfold Cache.fresh? at hfresh
    split at hfresh
    · rename_i payload time hget
      split at hfresh
      · rename_i hyoung
        obtain rfl := Option.some.inj hfresh
        unfold Cache.get at hget
        split at hget
        · cases hget
        · rename_i hclosed
          exact ⟨Bool.eq_false_iff.mpr hclosed, key, time, hkey, hget, hyoung⟩
      · cases hfresh
    · cases hfresh

variable [RandomSource σ]

/-- How a lookup goes: whether the store is asked, what is seen of that, how the lookup ends, and
the cache that it leaves. -/
inductive Looks (settings : Settings) (o : Occasion) (q : Inquiry) (c : Cache Answer σ) :
    Bool → Store.Traced Answer → Cache Answer σ → Prop
  | found {key : String} {r : q.kind.Result} (hkey : q.key = .ok key)
      (h : Holds settings o.looked c q r) :
      Looks settings o q c false ⟨[], .ok ⟨q.kind, r⟩⟩ (c.get key false).2
  | stored {key : String} {r : q.kind.Result} (hkey : q.key = .ok key)
      (h : ∀ r, ¬ Holds settings o.looked c q r) (hasked : (q.ask settings o.store).result = .ok r) :
      Looks settings o q c true ⟨(q.ask settings o.store).events, .ok ⟨q.kind, r⟩⟩
        ((c.get key false).2.keep key ⟨q.kind, r⟩ o.kept (q.cost settings))
  | failed {key : String} {e : Failure} (hkey : q.key = .ok key)
      (h : ∀ r, ¬ Holds settings o.looked c q r)
      (hasked : (q.ask settings o.store).result = .error e) :
      Looks settings o q c true ⟨(q.ask settings o.store).events, .error e⟩ (c.get key false).2

inductive Looked (settings : Settings) : List (Occasion × Inquiry) → Cache Answer σ →
    List Store.Event → List Answer → Cache Answer σ → Prop
  | nil (c : Cache Answer σ) : Looked settings [] c [] [] c
  | cons {o : Occasion} {q : Inquiry} {rest : List (Occasion × Inquiry)}
      {c here c' : Cache Answer σ} {asked : Bool} {events later : List Store.Event} {a : Answer}
      {answers : List Answer} (h : Looks settings o q c asked ⟨events, .ok a⟩ here)
      (hrest : Looked settings rest here later answers c') :
      Looked settings ((o, q) :: rest) c (events ++ later) (a :: answers) c'

section Lookup

variable {settings : Settings} {o : Occasion} {q : Inquiry} {c : Cache Answer σ}

theorem Looks.unique {asked asked' : Bool} {t t' : Store.Traced Answer} {c' c'' : Cache Answer σ}
    (h : Looks settings o q c asked t c') (h' : Looks settings o q c asked' t' c'') :
    t = t' ∧ c' = c'' := by
  cases h with
  | found hkey hheld =>
    cases h' with
    | found hkey' hheld' =>
      obtain rfl := Except.ok.inj (hkey.symm.trans hkey')
      obtain rfl := Option.some.inj
        (((holds_iff hkey).mp hheld).symm.trans ((holds_iff hkey).mp hheld'))
      exact ⟨rfl, rfl⟩
    | stored _ hnone _ => exact absurd hheld (hnone _)
    | failed _ hnone _ => exact absurd hheld (hnone _)
  | stored hkey hnone hasked =>
    cases h' with
    | found _ hheld => exact absurd hheld (hnone _)
    | stored hkey' _ hasked' =>
      obtain rfl := Except.ok.inj (hkey.symm.trans hkey')
      obtain rfl := Except.ok.inj (hasked.symm.trans hasked')
      exact ⟨rfl, rfl⟩
    | failed _ _ hasked' => cases hasked.symm.trans hasked'
  | failed hkey hnone hasked =>
    cases h' with
    | found _ hheld => exact absurd hheld (hnone _)
    | stored _ _ hasked' => cases hasked.symm.trans hasked'
    | failed hkey' _ hasked' =>
      obtain rfl := Except.ok.inj (hkey.symm.trans hkey')
      obtain rfl := Except.error.inj (hasked.symm.trans hasked')
      exact ⟨rfl, rfl⟩

theorem Looked.append_singleton {before : List (Occasion × Inquiry)} {here c' : Cache Answer σ}
    {asked : Bool} {events more : List Store.Event} {answers : List Answer} {a : Answer}
    (hbefore : Looked settings before c events answers here)
    (h : Looks settings o q here asked ⟨more, .ok a⟩ c') :
    Looked settings (before ++ [(o, q)]) c (events ++ more) (answers ++ [a]) c' := by
  induction hbefore with
  | nil c => simpa using Looked.cons h (.nil c')
  | cons hfirst hrest ih =>
    rw [List.append_assoc]
    exact .cons hfirst (ih h)

theorem Looked.split {before rest : List (Occasion × Inquiry)} {here c' : Cache Answer σ}
    {events all : List Store.Event} {answers given : List Answer}
    (hbefore : Looked settings before c events answers here)
    (hall : Looked settings (before ++ rest) c all given c') :
    ∃ later more, all = events ++ later ∧ given = answers ++ more ∧
      Looked settings rest here later more c' := by
  induction hbefore generalizing all given with
  | nil c => exact ⟨all, given, rfl, rfl, hall⟩
  | cons hfirst hrest ih =>
    cases hall with
    | cons hfirst' hall' =>
      obtain ⟨ht, rfl⟩ := hfirst.unique hfirst'
      obtain ⟨rfl, ha⟩ := Store.Traced.mk.inj ht
      obtain rfl := Except.ok.inj ha
      obtain ⟨later, more, rfl, rfl, hlater⟩ := ih hall'
      exact ⟨later, more, (List.append_assoc ..).symm, rfl, hlater⟩

end Lookup

section Serve

variable {settings : Settings} {templates : Templates} {template : Template} {f : Filters}
  {turns before after : List (Occasion × Inquiry)} {o : Occasion} {q : Inquiry}
  {c here : Cache Answer σ} {events : List Store.Event} {answers : List Answer}

end Serve

section Interrupted

def cutOff : Occasion := ⟨{ summary := some (.outside .canceled "statement timeout") }, 1.0, 1.0⟩

end Interrupted

end Dashboard

end Census
