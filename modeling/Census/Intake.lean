import Census.Location
import Census.Store.Basic
/-! The intake of reports. A report is kept with the place of its address and the time at which it
arrived; without a place it does not reach the database. -/
namespace Census.Intake

def complete (now : Time.Moment) (place : Location) (r : Record) : Record :=
  { r with
    country := place.country
    city := place.city
    latitude := place.latitude
    longitude := place.longitude
    lastSeen := some now }

def save (locations : LocationDatabase) (db : Store.Database) (now : Time.Moment) (r : Record) :
    Store.Traced Record := do
  let place ← .ofExcept (Location.find locations (some r.ipAddress))
  let r := complete now place r
  Store.save db now r
  return r

end Census.Intake
