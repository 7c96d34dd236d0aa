import Census.Web.Gate
import Census.Web.Route
import Mathlib.Data.List.TakeWhile

/-! Which requests the gate looks at, and what it makes of them. It goes by the path in the address
of a request, as some reader finds it. -/
namespace Census.Web

/-- A reader of addresses that finds the path of a request, without its tabs and line breaks. In an
address a question mark or a number sign would end the path. -/
structure FindsPath (read : Request → List Char) : Prop where
  path : ∀ r rest, r.target.path = '/' :: rest → '?' ∉ rest → '#' ∉ rest →
    read r = r.target.path.filter fun c => c ≠ '\t' ∧ c ≠ '\r' ∧ c ≠ '\n'

theorem findsPath_addressPath : FindsPath fun r => r.target.addressPath where
  path := by
    intro r rest hpath hquery hfragment
    apply List.takeWhile_eq_self_iff.mpr
    intro c hc
    have hmem : c ∈ '/' :: rest := hpath ▸ (List.mem_filter.mp hc).1
    have hmarks : '?' ∉ '/' :: rest ∧ '#' ∉ '/' :: rest := by
      simp [hquery, hfragment]
    exact decide_eq_true
      ⟨ne_of_mem_of_not_mem hmem hmarks.1, ne_of_mem_of_not_mem hmem hmarks.2⟩

namespace Gate

theorem guards_of_not_post (settings : Settings) {method : String} (h : method ≠ "POST")
    (path : List Char) : guards settings method path = false := by
  simp [guards, h]

theorem guards_report (settings : Settings) {read : Request → List Char} (hread : FindsPath read)
    {r : Request} (hmethod : r.method = "POST")
    (hpath : Route.report.hasPath r.target.path = true) :
    guards settings r.method (read r) = settings.rateLimitEnabled := by
  have hfound : read r = "/telemetry".toList := by
    simp only [Route.hasPath, Bool.or_eq_true, beq_iff_eq] at hpath
    rcases hpath with hpath | hpath <;>
    · rw [hread.path r _ hpath (by decide) (by decide), hpath]
      decide
  unfold guards
  rw [hmethod, hfound]
  rfl

/-- The verdicts on all reports together and, after them, on those of a client. -/
def verdicts (settings : Settings) (reachable : RateLimiter.Subject → Bool) (now : Int)
    (client : String) (g : Gate) : Verdict × Verdict :=
  let (whole, g) := g.ask settings reachable now .global
  (whole, (g.ask settings reachable now (.client client)).1)

theorem check_fst (settings : Settings) (reachable : RateLimiter.Subject → Bool) (now : Int)
    (client : String) (g : Gate) :
    (g.check settings reachable now client).1 =
      let (whole, client) := g.verdicts settings reachable now client
      refuses whole client := by
  unfold check verdicts
  rcases hask : g.ask settings reachable now .global with ⟨whole, asked⟩
  cases whole <;> rfl

end Gate

end Census.Web
