import Census.Proofs.Reporter.Endpoints
import Census.Proofs.Time.Calendar
import Mathlib.Data.List.Induction

/-! A reporter at work. Whatever the network answers and whenever the stop comes, rounds follow one
another until the stop is seen; each sends at most one report, and the line is closed once, after
the last of them. -/
namespace Census.Reporter

open Network Time

section Round

variable (r : Reporter) (now : Moment) (line : NetworkLine)

def posting (ip : String) : HttpRequest :=
  ⟨"POST", r.homeUrl, some r.apiKey, some (r.report now ip)⟩

def answer? : Option (Except Failure HttpReply) :=
  match publicAddress r.endpoints line with
  | (.ok ip, line) => if ip = "" then none else some (line.send (r.posting now ip)).1
  | (.error _, _) => none

def posted : List HttpRequest :=
  match (publicAddress r.endpoints line).1 with
  | .ok ip => if ip = "" then [] else line.made (r.posting now ip)
  | .error _ => []

def Created : Prop :=
  ∃ reply, r.answer? now line = some (.ok reply) ∧ reply.status = 201

variable {r now line}

theorem exists_take_publicAddress (endpoints : List String) (line : NetworkLine) :
    ∃ n, (publicAddress endpoints line).2 = line.asked (endpoints.take n) := by
  rw [publicAddress_eq]
  exact ⟨_, rfl⟩

theorem sendReport_snd (ip : String) :
    (r.sendReport (r.report now ip) line).2 = (line.send (r.posting now ip)).2 := by
  unfold sendReport posting
  rcases line.send _ with ⟨f | reply, after⟩ <;> rfl

theorem toBool_sendReport (ip : String) :
    (r.sendReport (r.report now ip) line).1.toBool = true ↔
      ∃ reply, (line.send (r.posting now ip)).1 = .ok reply ∧ reply.status = 201 := by
  unfold sendReport posting
  rcases line.send _ with ⟨f | reply, after⟩
  · simp [Except.toBool]
  · by_cases hstatus : reply.status = 201 <;> simp [hstatus, Except.toBool]

theorem reportOnce_eq_true : (r.reportOnce now line).1 = true ↔ r.Created now line := by
  unfold reportOnce Created answer?
  rcases publicAddress r.endpoints line with ⟨f | ip, after⟩
  · simp
  · by_cases hip : ip = ""
    · simp [hip]
    · simp [hip, toBool_sendReport]

theorem requests_reportOnce : (r.reportOnce now line).2.requests =
    (publicAddress r.endpoints line).2.requests ++ r.posted now line := by
  obtain ⟨n, hasked⟩ := exists_take_publicAddress r.endpoints line
  have hclosed := NetworkLine.closed_asked line (r.endpoints.take n)
  rw [← hasked] at hclosed
  unfold reportOnce posted
  revert hclosed
  rcases publicAddress r.endpoints line with ⟨f | ip, after⟩
  · simp
  · intro hclosed
    by_cases hip : ip = ""
    · simp [hip]
    · have hmade : line.made (r.posting now ip) = after.made (r.posting now ip) := by
        unfold NetworkLine.made
        rw [show after.closed = line.closed from hclosed]
      simp only [hip, if_false, sendReport_snd, hmade]
      exact (NetworkLine.send_frame after _).1

theorem length_made_le (line : NetworkLine) (q : HttpRequest) : (line.made q).length ≤ 1 := by
  unfold NetworkLine.made
  cases line.closed <;> cases NetworkLine.leaving? q <;> simp

theorem length_posted_le (r : Reporter) (now : Moment) (line : NetworkLine) :
    (r.posted now line).length ≤ 1 := by
  unfold posted
  split
  · split
    · simp
    · exact length_made_le _ _
  · simp

/-- A report leaves only once an address is known, which it carries. -/
theorem address_of_mem_posted {q : HttpRequest} (h : q ∈ r.posted now line) :
    ∃ ip, ip ≠ "" ∧ (publicAddress r.endpoints line).1 = .ok ip ∧
      NetworkLine.leaving? (r.posting now ip) = some q := by
  unfold posted at h
  split at h
  · rename_i ip hip
    split at h
    · cases h
    · rename_i hfound
      unfold NetworkLine.made at h
      split at h
      · cases h
      · exact ⟨ip, hfound, hip, Option.mem_toList.mp h⟩
  · cases h

structure Conduct (r : Reporter) (now : Moment) (line : NetworkLine) : Prop where
  requests_eq : ∃ tried, (r.reportOnce now line).2.requests = line.requests ++
    ((r.endpoints.take tried).flatMap fun url => line.made ⟨"GET", url, none, none⟩) ++
      r.posted now line
  length_le : (r.posted now line).length ≤ 1
  addressed : ∀ q ∈ r.posted now line, ∃ ip, ip ≠ "" ∧
    (publicAddress r.endpoints line).1 = .ok ip ∧
      NetworkLine.leaving? (r.posting now ip) = some q
  interval_eq : r.Created now line → r.delay (r.reportOnce now line).1 = r.interval
  backoff_eq : ¬ r.Created now line → r.delay (r.reportOnce now line).1 = r.backoff

theorem conduct (r : Reporter) (now : Moment) (line : NetworkLine) : Conduct r now line := by
  refine ⟨?_, length_posted_le r now line, fun q => address_of_mem_posted, fun h => ?_, fun h => ?_⟩
  · obtain ⟨tried, hasked⟩ := exists_take_publicAddress r.endpoints line
    exact ⟨tried, by rw [requests_reportOnce, hasked, NetworkLine.requests_asked]⟩
  · rw [reportOnce_eq_true.mpr h]
    rfl
  · rw [Bool.eq_false_iff.mpr fun hsent => h (reportOnce_eq_true.mp hsent)]
    rfl

end Round

section Course

def Deed.isStart : Deed → Bool
  | .start => true
  | _ => false

def Deed.isClose : Deed → Bool
  | .close => true
  | _ => false

def Work.begun (w : Work) : Nat := w.log.countP Deed.isStart

/-- The line after reports at some times. -/
def leave (r : Reporter) (line : NetworkLine) (nows : List Moment) : NetworkLine :=
  nows.foldl (fun line now => (r.reportOnce now line).2) line

def deeds (r : Reporter) : NetworkLine → List Moment → List Deed
  | _, [] => []
  | line, now :: rest =>
    [.start, .report now line, .wait (r.delay (r.reportOnce now line).1)] ++
      r.deeds (r.reportOnce now line).2 rest

def Stage.rest : Stage → List Deed
  | .reporting => [.start]
  | .ended => [.close]
  | _ => []

/-- Work that has reported at some times, one complete round after another, and then has at most
begun a round or closed the line. -/
structure Course (r : Reporter) (line : NetworkLine) (w : Work) (nows : List Moment) : Prop where
  log_eq : w.log = r.deeds line nows ++ w.stage.rest
  line_eq : w.line = if w.stage = .ended then (r.leave line nows).close else r.leave line nows
  stopped : w.stage = .ended → w.stopped = true

variable {r : Reporter} {line : NetworkLine} {w : Work} {nows : List Moment}

theorem deeds_append_singleton (line : NetworkLine) (nows : List Moment) (now : Moment) :
    r.deeds line (nows ++ [now]) = r.deeds line nows ++ [.start, .report now (r.leave line nows),
      .wait (r.delay (r.reportOnce now (r.leave line nows)).1)] := by
  induction nows generalizing line with
  | nil => rfl
  | cons first rest ih => simp [deeds, ih, leave]

theorem leave_append_singleton (line : NetworkLine) (nows : List Moment) (now : Moment) :
    r.leave line (nows ++ [now]) = (r.reportOnce now (r.leave line nows)).2 := by
  simp [leave]

theorem Course.proceed (h : Course r line w nows) (now : Moment) :
    ∃ nows', Course r line (r.proceed now w) nows' := by
  obtain ⟨stage, stopped, here, log⟩ := w
  obtain rfl : log = r.deeds line nows ++ stage.rest := h.log_eq
  obtain rfl : here = if stage = .ended then (r.leave line nows).close else r.leave line nows :=
    h.line_eq
  cases stage with
  | deciding =>
    refine ⟨nows, ?_⟩
    cases stopped with
    | true => exact ⟨by simp [Reporter.proceed, Stage.rest], by simp [Reporter.proceed], fun _ => rfl⟩
    | false => exact ⟨by simp [Reporter.proceed, Stage.rest], by simp [Reporter.proceed], nofun⟩
  | reporting =>
    -- the round that has begun is completed, whatever its outcome
    refine ⟨nows ++ [now], ?_, ?_, nofun⟩
    · simp [Reporter.proceed, Stage.rest, deeds_append_singleton]
    · simp [Reporter.proceed, leave_append_singleton]
  | waiting limit =>
    refine ⟨nows, ?_⟩
    cases stopped with
    | true => exact ⟨rfl, rfl, nofun⟩
    | false => exact ⟨rfl, rfl, nofun⟩
  | ended => exact ⟨nows, h⟩

theorem Course.step (h : Course r line w nows) (s : Signal) :
    ∃ nows', Course r line (r.step w s) nows' := by
  cases s with
  | stop => exact ⟨nows, h.log_eq, h.line_eq, fun _ => rfl⟩
  | proceed now => exact h.proceed now
  | expire =>
    obtain ⟨stage, stopped, here, log⟩ := w
    cases stage with
    | waiting limit => exact ⟨nows, h.log_eq, h.line_eq, nofun⟩
    | deciding => exact ⟨nows, h⟩
    | reporting => exact ⟨nows, h⟩
    | ended => exact ⟨nows, h⟩

theorem work_append (r : Reporter) (line : NetworkLine) (signals later : List Signal) :
    r.work line (signals ++ later) = later.foldl r.step (r.work line signals) :=
  List.foldl_append

theorem exists_course (r : Reporter) (line : NetworkLine) (signals : List Signal) :
    ∃ nows, Course r line (r.work line signals) nows := by
  induction signals using List.reverseRecOn with
  | nil => exact ⟨[], rfl, rfl, nofun⟩
  | append_singleton before s ih =>
    obtain ⟨nows, h⟩ := ih
    rw [work_append]
    exact h.step s

theorem countP_isClose_deeds (line : NetworkLine) (nows : List Moment) :
    (r.deeds line nows).countP Deed.isClose = 0 := by
  induction nows generalizing line with
  | nil => rfl
  | cons now rest ih => simp [deeds, ih, Deed.isClose]

theorem Course.countP_isClose (h : Course r line w nows) :
    w.log.countP Deed.isClose = if w.stage = .ended then 1 else 0 := by
  rw [h.log_eq, List.countP_append, countP_isClose_deeds]
  cases w.stage <;> rfl

theorem closed_reportOnce (r : Reporter) (now : Moment) (line : NetworkLine) :
    (r.reportOnce now line).2.closed = line.closed := by
  obtain ⟨n, hasked⟩ := exists_take_publicAddress r.endpoints line
  have hclosed := NetworkLine.closed_asked line (r.endpoints.take n)
  rw [← hasked] at hclosed
  unfold reportOnce
  revert hclosed
  rcases publicAddress r.endpoints line with ⟨f | ip, after⟩
  · exact id
  · intro hclosed
    by_cases hip : ip = ""
    · simpa [hip] using hclosed
    · simp only [hip, if_false, sendReport_snd]
      exact (NetworkLine.send_frame after _).2.trans hclosed

theorem closed_leave (line : NetworkLine) (nows : List Moment) :
    (r.leave line nows).closed = line.closed := by
  induction nows generalizing line with
  | nil => rfl
  | cons now rest ih => exact (ih _).trans (closed_reportOnce r now line)

theorem Course.closed_iff (h : Course r line w nows) (hopen : line.closed = false) :
    w.line.closed = true ↔ w.stage = .ended := by
  rw [h.line_eq]
  split
  · rename_i hended
    simp [hended, NetworkLine.close]
  · rename_i hended
    simp [hended, closed_leave, hopen]

end Course

section Stop

variable {r : Reporter} {line : NetworkLine} {w : Work}

def Signal.isProceed : Signal → Bool
  | .proceed _ => true
  | _ => false

def Stage.remaining : Stage → Nat
  | .reporting => 3
  | .waiting _ => 2
  | .deciding => 1
  | .ended => 0

theorem stopped_step (w : Work) (s : Signal) :
    (r.step w s).stopped = true ↔ w.stopped = true ∨ s = .stop := by
  obtain ⟨stage, stopped, here, log⟩ := w
  cases s with
  | stop => simp [step]
  | expire => cases stage <;> simp [step]
  | proceed now => cases stage <;> cases stopped <;> simp [step, proceed]

theorem stopped_work (signals : List Signal) :
    (r.work line signals).stopped = true ↔ .stop ∈ signals := by
  induction signals using List.reverseRecOn with
  | nil => simp [work]
  | append_singleton before s ih =>
    rw [work_append, List.mem_append, ← ih, List.mem_singleton, eq_comm (a := Signal.stop)]
    exact stopped_step _ s

/-- Once stopped, a reporter begins no round, and every step brings it nearer to its end. -/
theorem step_of_stopped (h : w.stopped = true) (s : Signal) :
    (r.step w s).begun = w.begun ∧
      (r.step w s).stage.remaining ≤ w.stage.remaining - if s.isProceed then 1 else 0 := by
  obtain ⟨stage, stopped, here, log⟩ := w
  obtain rfl : stopped = true := h
  cases s with
  | stop => exact ⟨rfl, Nat.le_refl _⟩
  | expire => cases stage <;> simp [step, Work.begun, Stage.remaining, Signal.isProceed]
  | proceed now =>
    cases stage <;>
      simp [step, proceed, Work.begun, Stage.remaining, Signal.isProceed, Deed.isStart,
        List.countP_append]

theorem steps_of_stopped (h : w.stopped = true) (later : List Signal) :
    (later.foldl r.step w).begun = w.begun ∧
      (later.foldl r.step w).stage.remaining ≤
        w.stage.remaining - later.countP Signal.isProceed := by
  induction later generalizing w with
  | nil => exact ⟨rfl, Nat.le_refl _⟩
  | cons s later ih =>
    obtain ⟨hbegun, hremaining⟩ := step_of_stopped (r := r) h s
    obtain ⟨hbegun', hremaining'⟩ := ih ((stopped_step w s).mpr (.inl h))
    refine ⟨hbegun'.trans hbegun, ?_⟩
    rw [List.countP_cons]
    simp only [List.foldl_cons]
    omega

theorem remaining_le (stage : Stage) : stage.remaining ≤ 3 := by
  cases stage <;> simp [Stage.remaining]

theorem eq_ended_of_remaining {stage : Stage} (h : stage.remaining = 0) : stage = .ended := by
  cases stage <;> first | rfl | cases h

/-- Until it is stopped, a reporter that goes on as its waits expire begins round after round. -/
theorem begun_of_not_stopped (h : w.stopped = false) (hended : w.stage ≠ .ended)
    (first second : Moment) :
    ([.proceed first, .expire, .proceed second].foldl r.step w).begun = w.begun + 1 := by
  obtain ⟨stage, stopped, here, log⟩ := w
  obtain rfl : stopped = false := h
  cases stage with
  | ended => exact absurd rfl hended
  | deciding => simp [step, proceed, Work.begun, Deed.isStart, List.countP_cons]
  | reporting => simp [step, proceed, Work.begun, Deed.isStart, List.countP_cons]
  | waiting limit => simp [step, proceed, Work.begun, Deed.isStart]

theorem work_of_ended {signals : List Signal} (h : (r.work line signals).stage = .ended)
    (later : List Signal) : r.work line (signals ++ later) = r.work line signals := by
  obtain ⟨nows, hcourse⟩ := exists_course r line signals
  have hstopped := hcourse.stopped h
  rw [work_append]
  induction later with
  | nil => rfl
  | cons s later ih =>
    have hstep : r.step (r.work line signals) s = r.work line signals := by
      rcases hw : r.work line signals with ⟨stage, stopped, here, log⟩
      rw [hw] at h hstopped
      obtain rfl : stage = .ended := h
      obtain rfl : stopped = true := hstopped
      cases s <;> rfl
    rw [List.foldl_cons, hstep, ih]

/-- Whatever the network answers and whenever the stop comes, work is one complete round after
another, each followed by the wait that its outcome asks for. Rounds begin until the stop and never
after it; three steps lead from the stop to the end, without any wait expiring. The line is closed
once, at the end, and nothing follows. -/
theorem rounds_until_stopped (r : Reporter) (line : NetworkLine) (signals : List Signal) :
    let w := r.work line signals
    (∃ nows, Course r line w nows) ∧ (∀ now here, Conduct r now here) ∧
    (w.stage = .ended → .stop ∈ signals) ∧
    (.stop ∉ signals → ∀ first second,
      (r.work line (signals ++ [.proceed first, .expire, .proceed second])).begun =
        w.begun + 1) ∧
    (∀ later, (r.work line (signals ++ .stop :: later)).begun = w.begun ∧
      (3 ≤ later.countP Signal.isProceed →
        (r.work line (signals ++ .stop :: later)).stage = .ended)) ∧
    (w.log.countP Deed.isClose = if w.stage = .ended then 1 else 0) ∧
    (line.closed = false → (w.line.closed = true ↔ w.stage = .ended)) ∧
    (w.stage = .ended → ∀ later, r.work line (signals ++ later) = w) := by
  intro w
  obtain ⟨nows, hcourse⟩ := exists_course r line signals
  have hstop : w.stage = .ended → .stop ∈ signals := fun hended =>
    (stopped_work signals).mp (hcourse.stopped hended)
  refine ⟨⟨nows, hcourse⟩, conduct r, hstop, fun hnone first second => ?_, fun later => ?_,
    hcourse.countP_isClose, hcourse.closed_iff, work_of_ended⟩
  · rw [work_append]
    refine begun_of_not_stopped ?_ (fun hended => hnone (hstop hended)) first second
    exact Bool.eq_false_iff.mpr fun hstopped => hnone ((stopped_work signals).mp hstopped)
  · have hstopped : (r.step w .stop).stopped = true := rfl
    obtain ⟨hbegun, hremaining⟩ := steps_of_stopped (r := r) hstopped later
    rw [work_append]
    have hmost := remaining_le (r.step w .stop).stage
    refine ⟨hbegun, fun hsteps => eq_ended_of_remaining ?_⟩
    have hdone : (later.foldl r.step (r.step w .stop)).stage.remaining = 0 := by omega
    exact hdone

def herald : Reporter where
  service := "mfx"
  version := "0.1"
  endpoints := ["https://ip-a.test/", "https://ip-b.test/"]
  deploymentId := "d"
  node := 0

def deserted : NetworkLine where
  answers := [.ok ⟨200, "1.2.3.4".toList.map (·.toNat.toUInt8)⟩, .ok ⟨201, []⟩,
    .error (.outside .connecting "refused"), .error (.outside .runtime "broken")]
  requests := []
  closed := false

def noon : Moment := ⟨0, some 0, Moment.inRange_zero, Moment.offset_lt_utc⟩

def underway : List Signal :=
  [.proceed noon, .proceed noon, .expire, .proceed noon]

/-- The stop comes in a round, which is finished in spite of it. -/
def interrupted : List Signal :=
  underway ++ .stop :: List.replicate 3 (.proceed noon)

theorem rounds_interrupted :
    (herald.work deserted interrupted).stage = .ended ∧
      (herald.work deserted interrupted).begun = 2 ∧
      (herald.work deserted interrupted).line.closed = true ∧
      (herald.work deserted interrupted).log.filterMap Deed.limit? =
        [herald.interval, herald.backoff] := by
  obtain ⟨-, -, -, -, hstops, -⟩ := rounds_until_stopped herald deserted underway
  obtain ⟨-, -, -, -, -, -, hclosed, -⟩ := rounds_until_stopped herald deserted interrupted
  obtain ⟨hbegun, hended⟩ := hstops (List.replicate 3 (.proceed noon))
  have hend : (herald.work deserted interrupted).stage = .ended := hended (by decide)
  have hcount : (herald.work deserted underway).begun = 2 := by decide +kernel
  exact ⟨hend, hbegun.trans hcount, (hclosed rfl).mpr hend, by decide +kernel⟩

end Stop

end Census.Reporter
