import Census.Proofs.Network.Address
import Census.Reporter

/-! The public address is that of the first endpoint that works. Endpoints are asked in their order
and none after the one that settles the matter: the first that works, or the first whose failure is
of a kind that ends the search. -/
namespace Census

open Network Text Time

namespace NetworkLine

variable {line : NetworkLine}

def leaving? (q : HttpRequest) : Option HttpRequest :=
  match (WebAddress.read? q.url.toList).map WebAddress.requested, draftFailure? q with
  | some address, none => some { q with url := address.text }
  | _, _ => none

def made (line : NetworkLine) (q : HttpRequest) : List HttpRequest :=
  if line.closed then [] else (leaving? q).toList

theorem send_frame (line : NetworkLine) (q : HttpRequest) :
    (line.send q).2.requests = line.requests ++ line.made q ∧
      (line.send q).2.closed = line.closed := by
  unfold send made leaving?
  cases (WebAddress.read? q.url.toList).map WebAddress.requested with
  | none => simp
  | some address =>
    cases draftFailure? q with
    | some f => simp
    | none =>
      by_cases hclosed : line.closed
      · simp [hclosed]
      · cases line.answers <;> simp [hclosed]

def ask (line : NetworkLine) (url : String) : Except Failure HttpReply × NetworkLine :=
  line.send ⟨"GET", url, none, none⟩

theorem ask_of_unreadable {url : String} (h : WebAddress.read? url.toList = none) :
    line.ask url = (.error WebAddress.refusal, line) := by
  unfold ask send
  simp only [h, Option.map_none]

/-- The line after some endpoints were asked. -/
def asked (line : NetworkLine) (urls : List String) : NetworkLine :=
  urls.foldl (fun line url => (line.ask url).2) line

def outcomes (line : NetworkLine) : List String → List (Except Failure HttpReply)
  | [] => []
  | url :: rest => (line.ask url).1 :: (line.ask url).2.outcomes rest

@[simp] theorem asked_nil (line : NetworkLine) : line.asked [] = line := rfl

@[simp] theorem asked_cons (line : NetworkLine) (url : String) (rest : List String) :
    line.asked (url :: rest) = (line.ask url).2.asked rest := rfl

theorem asked_append (line : NetworkLine) (urls more : List String) :
    line.asked (urls ++ more) = (line.asked urls).asked more :=
  List.foldl_append

theorem exists_asked_of_outcomes {urls : List String} {seen more : List (Except Failure HttpReply)}
    {o : Except Failure HttpReply} (h : line.outcomes urls = seen ++ o :: more) :
    ∃ before url rest, urls = before ++ url :: rest ∧ line.outcomes before = seen ∧
      ((line.asked before).ask url).1 = o := by
  induction urls generalizing line seen with
  | nil => cases seen <;> cases h
  | cons url rest ih =>
    cases seen with
    | nil => exact ⟨[], url, rest, rfl, rfl, (List.cons.inj h).1⟩
    | cons first seen =>
      obtain ⟨hfirst, hrest⟩ := List.cons.inj h
      obtain ⟨before, last, after, rfl, hbefore, hlast⟩ := ih hrest
      exact ⟨url :: before, last, after, rfl, by rw [outcomes, hfirst, hbefore], hlast⟩

theorem closed_asked (line : NetworkLine) (urls : List String) :
    (line.asked urls).closed = line.closed := by
  induction urls generalizing line with
  | nil => rfl
  | cons url rest ih =>
    rw [asked_cons, ih]
    exact (send_frame line _).2

theorem requests_asked (line : NetworkLine) (urls : List String) :
    (line.asked urls).requests =
      line.requests ++ urls.flatMap fun url => line.made ⟨"GET", url, none, none⟩ := by
  induction urls generalizing line with
  | nil => simp
  | cons url rest ih =>
    obtain ⟨hrequests, hclosed⟩ := send_frame line ⟨"GET", url, none, none⟩
    have hmade : ∀ q, (line.ask url).2.made q = line.made q := by
      intro q
      unfold made
      rw [show (line.ask url).2.closed = line.closed from hclosed]
    rw [asked_cons, ih, show (line.ask url).2.requests = _ from hrequests]
    simp [hmade]

end NetworkLine

namespace Reporter

/-- The address that an endpoint names; only one that works names any. -/
def named? : Except Failure HttpReply → Option Address
  | .ok reply => if isSuccess reply.status then addressIn reply.body else none
  | .error _ => none

def passes : Except Failure HttpReply → Bool
  | .ok reply => (named? (.ok reply)).isNone
  | .error f => isPassable f

def verdict : Except Failure HttpReply → Except Failure String
  | .ok reply => .ok ((named? (.ok reply)).elim "" Address.text)
  | .error f => .error f

theorem publicAddress_cons (url : String) (rest : List String) (line : NetworkLine) :
    publicAddress (url :: rest) line =
      if passes (line.ask url).1 then publicAddress rest (line.ask url).2
      else (verdict (line.ask url).1, (line.ask url).2) := by
  rw [publicAddress]
  unfold NetworkLine.ask
  rcases line.send ⟨"GET", url, none, none⟩ with ⟨f | reply, after⟩
  · cases hpass : isPassable f <;> simp [passes, verdict, hpass]
  · cases hnamed : (if isSuccess reply.status then addressIn reply.body else none) <;>
      simp [passes, verdict, named?, hnamed]

/-- The search ends with the first outcome after which it does not go on, if there is one. -/
theorem publicAddress_eq (endpoints : List String) (line : NetworkLine) :
    publicAddress endpoints line =
      (((line.outcomes endpoints).find? (!passes ·)).elim (.ok "") verdict,
        line.asked (endpoints.take ((line.outcomes endpoints).findIdx (!passes ·) + 1))) := by
  induction endpoints generalizing line with
  | nil => rfl
  | cons url rest ih =>
    rw [publicAddress_cons, NetworkLine.outcomes, List.find?_cons, List.findIdx_cons]
    cases hpasses : passes (line.ask url).1 with
    | true => simp [ih]
    | false => simp

theorem publicAddress_append {before rest : List String} {line : NetworkLine}
    (h : ∀ o ∈ line.outcomes before, passes o = true) :
    publicAddress (before ++ rest) line = publicAddress rest (line.asked before) := by
  induction before generalizing line with
  | nil => rfl
  | cons url before ih =>
    obtain ⟨hfirst, hrest⟩ := List.forall_mem_cons.mp h
    rw [List.cons_append, publicAddress_cons, if_pos hfirst, ih hrest]
    rfl

/-- No failure ends the search before an endpoint works. -/
def Unhindered (outcomes : List (Except Failure HttpReply)) : Prop :=
  ∀ before f rest, outcomes = before ++ .error f :: rest → (∀ o ∈ before, named? o = none) →
    isPassable f = true

theorem named?_of_passes {o : Except Failure HttpReply} (h : passes o = true) : named? o = none := by
  cases o with
  | error f => rfl
  | ok reply => exact Option.isNone_iff_eq_none.mp h

theorem unhindered_cons {o : Except Failure HttpReply} {rest : List (Except Failure HttpReply)} :
    Unhindered (o :: rest) ↔
      (∀ f, o = .error f → isPassable f = true) ∧ (named? o = none → Unhindered rest) := by
  constructor
  · intro h
    refine ⟨fun f ho => h [] f rest (by rw [ho]; rfl) (by simp),
      fun hnone before f more hrest hbefore => ?_⟩
    refine h (o :: before) f more (by rw [hrest]; rfl) ?_
    exact List.forall_mem_cons.mpr ⟨hnone, hbefore⟩
  · rintro ⟨hhead, htail⟩ before f more hlist hbefore
    cases before with
    | nil => exact hhead f (List.cons.inj hlist).1
    | cons first before =>
      obtain ⟨rfl, hrest⟩ := List.cons.inj hlist
      obtain ⟨hnone, hbefore⟩ := List.forall_mem_cons.mp hbefore
      exact htail hnone before f more hrest hbefore

theorem Unhindered.search {outcomes : List (Except Failure HttpReply)} (h : Unhindered outcomes) :
    (outcomes.find? (!passes ·)).elim (.ok "") verdict =
        .ok ((outcomes.findSome? named?).elim "" Address.text) ∧
      outcomes.findIdx (!passes ·) = outcomes.findIdx fun o => (named? o).isSome := by
  induction outcomes with
  | nil => exact ⟨rfl, rfl⟩
  | cons o rest ih =>
    rw [List.find?_cons, List.findSome?_cons, List.findIdx_cons, List.findIdx_cons]
    cases hpasses : passes o with
    | true =>
      have hnamed := named?_of_passes hpasses
      obtain ⟨hfound, hindex⟩ := ih ((unhindered_cons.mp h).2 hnamed)
      simp [hnamed, hfound, hindex]
    | false =>
      cases o with
      | error f =>
        rw [passes, (unhindered_cons.mp h).1 f rfl] at hpasses
        cases hpasses
      | ok reply =>
        obtain ⟨a, ha⟩ := Option.ne_none_iff_exists'.mp fun hnone : named? (.ok reply) = none => by
          simp [passes, hnone] at hpasses
        simp [verdict, ha]

theorem exists_of_not_unhindered {outcomes : List (Except Failure HttpReply)}
    (h : ¬ Unhindered outcomes) :
    ∃ before f rest, outcomes = before ++ .error f :: rest ∧ (∀ o ∈ before, passes o = true) ∧
      isPassable f = false := by
  induction outcomes with
  | nil => exact absurd (fun _ _ _ hlist _ => absurd hlist (by simp)) h
  | cons o rest ih =>
    rw [unhindered_cons] at h
    cases hpasses : passes o with
    | true =>
      have hrest : ¬ Unhindered rest := fun hrest =>
        h ⟨fun f ho => by rw [ho] at hpasses; exact hpasses, fun _ => hrest⟩
      obtain ⟨before, f, more, rfl, hbefore, hf⟩ := ih hrest
      exact ⟨o :: before, f, more, rfl, List.forall_mem_cons.mpr ⟨hpasses, hbefore⟩, hf⟩
    | false =>
      cases o with
      | error f => exact ⟨[], f, rest, rfl, by simp, hpasses⟩
      | ok reply =>
        -- an endpoint that works hinders nothing
        refine absurd (And.intro (fun f ho => by cases ho) fun hnone => ?_) h
        simp [passes, hnone] at hpasses

theorem read?_text_of_named {o : Except Failure HttpReply} {a : Address} (h : named? o = some a) :
    Address.read? a.text.toList = some a := by
  cases o with
  | error f => cases h
  | ok reply =>
    simp only [named?] at h
    split at h
    · unfold addressIn at h
      unfold Address.text
      rw [String.toList_ofList]
      exact Address.read?_write_of_read? h
    · cases h

theorem elim_text_eq_empty {outcomes : List (Except Failure HttpReply)} :
    (Except.ok ((outcomes.findSome? named?).elim "" Address.text) : Except Failure String) = .ok "" ↔
      ∀ o ∈ outcomes, named? o = none := by
  rw [← List.findSome?_eq_none_iff]
  cases hfound : outcomes.findSome? named? with
  | none => simp
  | some a =>
    obtain ⟨o, -, ho⟩ := List.exists_of_findSome?_eq_some hfound
    have hread := read?_text_of_named ho
    refine ⟨fun hempty => ?_, nofun⟩
    rw [show a.text = "" from Except.ok.inj hempty] at hread
    cases hread

/-- The first endpoint that works gives the public address, in the text that stands for it, and is
the last to be asked; the text is empty exactly where no endpoint works. A failure of another kind
than those of the network and of values, such as that of an unreadable endpoint, ends the search:
the endpoints after it go unasked. -/
theorem publicAddress_firstWorking (endpoints : List String) (line : NetworkLine) :
    let outcomes := line.outcomes endpoints
    (Unhindered outcomes →
      publicAddress endpoints line =
        (.ok ((outcomes.findSome? named?).elim "" Address.text),
          line.asked (endpoints.take (outcomes.findIdx (fun o => (named? o).isSome) + 1))) ∧
      ((publicAddress endpoints line).1 = .ok "" ↔ ∀ o ∈ outcomes, named? o = none)) ∧
    (¬ Unhindered outcomes →
      ∃ before url rest f, endpoints = before ++ url :: rest ∧
        (∀ o ∈ line.outcomes before, named? o = none) ∧
        ((line.asked before).ask url).1 = .error f ∧ isPassable f = false ∧
        publicAddress endpoints line = (.error f, line.asked (before ++ [url]))) ∧
    (∀ url, WebAddress.read? url.toList = none →
      line.ask url = (.error WebAddress.refusal, line) ∧ isPassable WebAddress.refusal = false) ∧
    (∀ urls, (line.asked urls).requests =
      line.requests ++ urls.flatMap fun url => line.made ⟨"GET", url, none, none⟩) ∧
    ∀ o a, named? o = some a → Address.read? a.text.toList = some a := by
  intro outcomes
  refine ⟨fun h => ?_, fun h => ?_, fun url h => ⟨NetworkLine.ask_of_unreadable h, rfl⟩,
    NetworkLine.requests_asked line, fun _ _ => read?_text_of_named⟩
  · obtain ⟨hfound, hindex⟩ := h.search
    have hsearch := publicAddress_eq endpoints line
    rw [hfound, hindex] at hsearch
    refine ⟨hsearch, ?_⟩
    rw [hsearch]
    exact elim_text_eq_empty
  · obtain ⟨before', f, more, hsplit, hpasses, hf⟩ := exists_of_not_unhindered h
    obtain ⟨before, url, rest, rfl, rfl, hlast⟩ := NetworkLine.exists_asked_of_outcomes hsplit
    refine ⟨before, url, rest, f, rfl, fun o ho => named?_of_passes (hpasses o ho), hlast, hf, ?_⟩
    rw [publicAddress_append hpasses, publicAddress_cons, hlast, passes, hf,
      NetworkLine.asked_append]
    rfl

def spelled : List String :=
  ["https://ip-a.test/", "https://ip-b.test/", "https://ip-c.test/", "https://ip-d.test/"]

def patchy : NetworkLine where
  answers := [.error (.outside .connecting "refused"), .ok ⟨503, []⟩,
    .ok ⟨200, "2001:DB8:0:0:0:0:0:1\n".toList.map (·.toNat.toUInt8)⟩]
  requests := []
  closed := false

def sound : NetworkLine where
  answers := [.ok ⟨200, "1.2.3.4".toList.map (·.toNat.toUInt8)⟩]
  requests := []
  closed := false

def misspelled : List String :=
  ["http://ip-a.test:bad/", "https://ip-b.test/"]

/-- The endpoint that works is not asked, because the one before it cannot be read. -/
theorem publicAddress_misspelled :
    publicAddress spelled patchy = (.ok "2001:db8::1", patchy.asked (spelled.take 3)) ∧
      ∃ before url rest f, misspelled = before ++ url :: rest ∧ isPassable f = false ∧
        publicAddress misspelled sound = (.error f, sound.asked (before ++ [url])) ∧
        f = WebAddress.refusal := by
  have hpatchy := publicAddress_firstWorking spelled patchy
  have hsound := publicAddress_firstWorking misspelled sound
  constructor
  · have houtcomes : patchy.outcomes spelled = [.error (.outside .connecting "refused"),
        .ok ⟨503, []⟩, .ok ⟨200, "2001:DB8:0:0:0:0:0:1\n".toList.map (·.toNat.toUInt8)⟩,
        .ok ⟨503, []⟩] := by decide +kernel
    have hunhindered : Unhindered (patchy.outcomes spelled) := by
      intro before f rest hsplit _
      have hmem : .error f ∈ patchy.outcomes spelled := by
        rw [hsplit]
        simp
      rw [houtcomes] at hmem
      obtain rfl : f = .outside .connecting "refused" := by simpa using hmem
      rfl
    have htext : ((patchy.outcomes spelled).findSome? named?).elim "" Address.text =
        "2001:db8::1" := by decide +kernel
    have hindex : (patchy.outcomes spelled).findIdx (fun o => (named? o).isSome) = 2 := by
      decide +kernel
    have hfirst := (hpatchy.1 hunhindered).1
    rwa [htext, hindex] at hfirst
  · have hhindered : ¬ Unhindered (sound.outcomes misspelled) := fun h =>
      absurd (h [] WebAddress.refusal _ rfl (by simp)) (by decide)
    obtain ⟨before, url, rest, f, hsplit, -, -, hf, hends⟩ := hsound.2.1 hhindered
    have hfailure : (publicAddress misspelled sound).1 = .error WebAddress.refusal := by
      decide
    rw [hends] at hfailure
    exact ⟨before, url, rest, f, hsplit, hf, hends, Except.error.inj hfailure⟩

end Reporter

end Census
