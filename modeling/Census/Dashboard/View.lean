import Census.Filters.Key
import Census.Json.Writer
import Census.Page
import Census.Summary
/-! What the dashboard shows: the filtered data, and what filters may be chosen. -/
namespace Census.Dashboard

inductive Choice
  | country
  | city
  | service
  | version
deriving DecidableEq, Repr

structure View where
  countries : Json
  cities : Json
  map : Json
  deployments : Int
  countryCount : Nat
  start : String
  stop : String
  options : Choice → List Label
  selected : Choice → String

def countryLabels (s : Summary) : List Label :=
  Label.union [] ((s.countries.filter (·.country ≠ "")).map fun c => .text c.country)

def View.make (f : Filters) (summary unfiltered : Summary) (page : Page) :
    Except Failure View := do
  let cities ← Summary.labelsJson summary.cities
  let countryOptions ← Label.sort (countryLabels unfiltered)
  let cityOptions ← Label.sort unfiltered.cities
  let serviceOptions ← Label.sort unfiltered.services
  let versionOptions ← Label.sort unfiltered.versions
  return {
    countries := summary.countriesJson
    cities := cities
    map := page.toJson
    deployments := summary.total
    countryCount := summary.countries.length
    start := ← Filters.shownMoment f.start
    stop := ← Filters.shownMoment f.stop
    options := fun
      | .country => countryOptions
      | .city => cityOptions
      | .service => serviceOptions
      | .version => versionOptions
    selected := fun
      | .country => f.country
      | .city => f.city
      | .service => f.service
      | .version => f.version }

end Census.Dashboard
