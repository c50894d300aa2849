import Eligibility.Catalog.Basic

/-!
Configurations: contexts that join the built-in ones, and two settings.
-/

set_option autoImplicit false

namespace Eligibility

structure Settings where
  /-- The name of a time zone, shown beside the state of a schedule. -/
  timezone : Option String
  /-- The id of the context that a rule is written for when nothing else names one. -/
  defaultContext : Option String
  deriving DecidableEq, Repr

structure Config where
  contexts : List Context
  settings : Settings
  deriving DecidableEq, Repr

namespace Config

def empty : Config := ⟨[], ⟨none, none⟩⟩

def catalog (c : Config) : Catalog := .withContexts c.contexts

def exampleContext : Context :=
  .ofVars "fleet_alert" "Fleet alert" "Alerts raised from vehicle and compliance data" [
    ⟨"vehicle.mileage", "Mileage", .number, "Vehicle", "Odometer reading in miles", []⟩,
    ⟨"vehicle.fuelType", "Fuel type", .string, "Vehicle", "", [.equal, .notEqual, .among]⟩,
    ⟨"vehicle.motExpiry", "MOT expiry", .date, "Compliance", "", []⟩,
    ⟨"driver.onShift", "Driver on shift", .boolean, "Driver", "", []⟩]

def withExample : Config := ⟨[exampleContext], ⟨some "Europe/London", some "booking_event"⟩⟩

end Config

end Eligibility
