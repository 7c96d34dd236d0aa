import Census.Proofs.Number.Double
import Census.RateLimit
import Mathlib.Algebra.Group.Int.Defs

/-! The store of marks as the calls of one limiter meet it. Its keys have lives, after which the
store may drop them at any time. Numbers that doubles hold are decided on exactly, and the members
of a limiter never meet. -/
namespace Census

theorem Table.get?_filter {α : Type} (t : Table α) (p : String → Bool) (name : String) :
    Table.get? (t.filter fun entry => p entry.1) name = if p name then t.get? name else none := by
  induction t with
  | nil => simp [get?]
  | cons entry rest ih =>
    obtain ⟨other, a⟩ := entry
    by_cases hname : other = name
    · subst hname
      cases hp : p other <;> simp [hp, get?, ih]
    · cases hp : p other <;> simp [hp, get?, hname, ih]

namespace LimitMarks

theorem marks_put (m : LimitMarks) (key other : String) (l : List LimitMark) :
    marks (m.put key l) other = if key = other then l else m.marks other := by
  unfold marks
  rw [Table.get?_put]
  split <;> rfl

/-- Rounding the start of a window expires no other marks; one before time zero expires none. -/
theorem filter_expired {l : List LimitMark} {windowStart : Int} (hstart : windowStart ≤ 2 ^ 53)
    (hscores : ∀ mark ∈ l, 0 ≤ mark.score) :
    l.filter (fun mark => !expired (Number.nearestDouble windowStart) mark) =
      l.filter fun mark => windowStart < mark.score := by
  have hround : Number.nearestDouble windowStart = windowStart ∨
      windowStart < 0 ∧ Number.nearestDouble windowStart < 0 := by
    by_cases hneg : windowStart < 0
    · exact .inr ⟨hneg, Number.nearestDouble_of_neg hneg⟩
    · exact .inl (Number.nearestDouble_of_le (by omega))
  apply List.filter_congr
  intro mark hmark
  have hscore := hscores mark hmark
  have hexpired : expired (Number.nearestDouble windowStart) mark = true ↔
      mark.score ≤ windowStart := by
    simp only [expired, Bool.and_eq_true, decide_eq_true_eq]
    omega
  rw [Bool.eq_iff_iff, Bool.not_eq_true', ← Bool.not_eq_true, hexpired]
  simp

theorem decide_eq {m : LimitMarks} {c : LimitCall} (hnow : 0 ≤ c.now ∧ c.now ≤ 2 ^ 53)
    (hstart : c.windowStart ≤ c.now) (hlimit : c.limit ≤ 2 ^ 53) (hwindow : 0 < c.window)
    (hlife : canLive .double (Number.nearestDouble c.window * 2) = true)
    (hscores : ∀ mark ∈ m.marks c.key, 0 ≤ mark.score)
    (hmembers : ∀ mark ∈ m.marks c.key, mark.member ≠ c.member) :
    m.decide .double c =
      let kept := (m.marks c.key).filter fun mark => c.windowStart < mark.score
      if (kept.length : Int) < c.limit then
        (some ⟨true, c.limit - 1 - kept.length⟩, m.put c.key (kept ++ [⟨c.now, c.member⟩]))
      else (some ⟨false, 0⟩, m.put c.key kept) := by
  have hkept := filter_expired (Int.le_trans hstart hnow.2) hscores
  have hfresh : ((m.marks c.key).filter fun mark => c.windowStart < mark.score).filter
      (·.member != c.member) = (m.marks c.key).filter fun mark => c.windowStart < mark.score := by
    rw [List.filter_eq_self]
    intro mark hmark
    simpa using hmembers mark (List.mem_filter.mp hmark).1
  have hlong : ¬ Number.nearestDouble c.window * 2 ≤ 0 := by
    have hhalf := Number.le_two_mul_nearestDouble hwindow
    omega
  have hexact : Number.nearestDouble c.now = c.now := Number.nearestDouble_of_le (by omega)
  unfold decide
  simp only [Number.Precision.keep, hkept, hexact, hlife, Bool.not_true, Bool.false_eq_true,
    if_false, if_neg hlong, hfresh]
  generalize (m.marks c.key).filter (fun mark => c.windowStart < mark.score) = kept
  by_cases hcount : (kept.length : Int) < c.limit
  · have hmost : Number.nearestDouble c.limit = c.limit := Number.nearestDouble_of_le (by omega)
    have hleft : Number.nearestDouble (c.limit - kept.length) = c.limit - kept.length :=
      Number.nearestDouble_of_le (by omega)
    have hnext : Number.nearestDouble (c.limit - kept.length - 1) = c.limit - 1 - kept.length := by
      rw [Number.nearestDouble_of_le (by omega)]
      omega
    rw [hmost, hleft, hnext]
  · have hmost : ¬ (kept.length : Int) < Number.nearestDouble c.limit := by
      by_cases hneg : c.limit < 0
      · have hround := Number.nearestDouble_of_neg hneg
        omega
      · rw [Number.nearestDouble_of_le (by omega)]
        exact hcount
    rw [if_neg hcount, if_neg hmost]

end LimitMarks

namespace RateLimiter

def key (identifier : String) : String :=
  "callhome:ratelimit:" ++ identifier

def member (now : Int) (number : Nat) : String :=
  toString now ++ ":" ++ toString number

theorem key_inj {i j : String} (h : key i = key j) : i = j :=
  (String.append_right_inj _).mp h

theorem toDigits_inj {m n : Nat} (h : Nat.toDigits 10 m = Nat.toDigits 10 n) : m = n := by
  rw [← Nat.ofDigitChars_ten_toDigits (n := m), h, Nat.ofDigitChars_ten_toDigits]

theorem colon_not_mem_toDigits (n : Nat) : ':' ∉ Nat.toDigits 10 n := by
  intro hmem
  exact absurd (Nat.isDigit_of_mem_toDigits (by decide) (by decide) hmem) (by decide)

theorem append_colon_inj {before before' after after' : List Char} (h : ':' ∉ after)
    (h' : ':' ∉ after') (heq : before ++ ':' :: after = before' ++ ':' :: after') :
    after = after' := by
  rw [List.append_eq_append_iff] at heq
  rcases heq with ⟨between, -, hrest⟩ | ⟨between, -, hrest⟩
  · cases between with
    | nil => simpa using hrest
    | cons c between =>
      simp only [List.cons_append, List.cons.injEq] at hrest
      exact absurd (by simp [hrest.2]) h
  · cases between with
    | nil => simpa using hrest.symm
    | cons c between =>
      simp only [List.cons_append, List.cons.injEq] at hrest
      exact absurd (by simp [hrest.2]) h'

theorem member_inj {now now' : Int} {n n' : Nat} (h : member now n = member now' n') : n = n' := by
  have hlist := congrArg String.toList h
  simp only [member, String.toList_append, List.append_assoc] at hlist
  exact toDigits_inj (append_colon_inj (colon_not_mem_toDigits n) (colon_not_mem_toDigits n')
    (by simpa using hlist))

structure Bound where
  limit : Int
  window : Int

structure Request where
  subject : Subject
  now : Int
  /-- The keys that the store has dropped by now, if their lives are over. -/
  gone : String → Bool

/-- A limiter, its store of marks, and the ends of the lives of the store's keys. -/
structure Session where
  limiter : RateLimiter
  marks : LimitMarks
  ends : Table Int

namespace Session

def isOver (s : Session) (now : Int) (key : String) : Bool :=
  match s.ends.get? key with
  | some last => last ≤ now
  | none => false

def swept (s : Session) (r : Request) : LimitMarks :=
  s.marks.filter fun entry => !(r.gone entry.1 && s.isOver r.now entry.1)

/-- Decides on a request under the bounds of its identifier. The marks of an allowed call live for
two windows from now. -/
def answer (bounds : String → Bound) (s : Session) (r : Request) : Option LimitAnswer × Session :=
  let bound := bounds r.subject.name
  let (call, limiter) := s.limiter.call r.subject bound.limit bound.window r.now
  let (answer, marks) := (s.swept r).decide .double call
  (answer,
    { limiter := limiter
      marks := marks
      ends :=
        if (answer.map (·.allowed)).getD false then
          s.ends.put call.key (r.now + 1000 * (Number.nearestDouble bound.window * 2))
        else s.ends })

end Session

end RateLimiter

end Census
