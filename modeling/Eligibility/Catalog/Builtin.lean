import Eligibility.Catalog.Context

/-!
The contexts that every catalog starts from.
-/

set_option autoImplicit false

namespace Eligibility.Builtin

def plain (id name : String) (valueType : ValueType) (category : String) : Variable :=
  ⟨id, name, valueType, category, "", []⟩

/-- A variable that can be tested for equality and membership only. -/
def keyword (id name category description : String) : Variable :=
  ⟨id, name, .string, category, description, [.equal, .notEqual, .among]⟩

def fare : Variable :=
  ⟨"booking.fare", "Fare", .number, "booking", "Quoted or final fare in the account currency", []⟩

def bookingVariables : List Variable := [
  keyword "booking.status" "Booking status" "booking"
    "Lifecycle state, e.g. pending, allocated, completed",
  fare,
  plain "booking.passengers" "Passenger count" .number "booking",
  plain "booking.vehicleType" "Vehicle type" .string "booking",
  plain "booking.pickupTime" "Pickup time" .date "booking",
  plain "booking.pickupZone" "Pickup zone" .string "booking",
  plain "booking.dropoffZone" "Drop-off zone" .string "booking",
  plain "booking.isAccount" "Account booking" .boolean "booking",
  plain "booking.isAirport" "Airport job" .boolean "booking",
  keyword "booking.paymentMethod" "Payment method" "payment" "",
  plain "booking.attributes" "Attributes" .array "booking"]

def customerVariables : List Variable := [
  plain "customer.name" "Customer name" .string "customer",
  plain "customer.email" "Customer email" .string "customer",
  plain "customer.totalBookings" "Total bookings" .number "customer",
  plain "customer.isNew" "New customer" .boolean "customer",
  plain "customer.tags" "Customer tags" .array "customer",
  plain "customer.createdAt" "Signed up" .date "customer"]

def driverVariables : List Variable := [
  plain "driver.callsign" "Driver callsign" .string "driver",
  plain "driver.rating" "Driver rating" .number "driver",
  plain "driver.isOnline" "Driver online" .boolean "driver",
  plain "vehicle.seats" "Vehicle seats" .number "vehicle"]

def automationVariables : List Variable :=
  bookingVariables ++
    [keyword "event.type" "Trigger event" "event" "",
      plain "event.occurredAt" "Occurred at" .date "event"] ++
    driverVariables

def webhookVariables : List Variable :=
  bookingVariables ++
    [plain "event.type" "Event type" .string "event",
      plain "event.payload" "Payload" .object "event"]

def messageVariables : List Variable :=
  bookingVariables ++ driverVariables ++
    [plain "message.channel" "Channel" .string "message"]

def promotionVariables : List Variable :=
  customerVariables ++
    [plain "booking.fare" "Fare" .number "booking",
      plain "booking.pickupZone" "Pickup zone" .string "booking",
      plain "booking.vehicleType" "Vehicle type" .string "booking",
      plain "booking.pickupTime" "Pickup time" .date "booking",
      plain "booking.isAccount" "Account booking" .boolean "booking"]

def contexts : List Context := [
  .ofVars "booking_event" "Booking event"
    "Conditions evaluated when a booking changes state" bookingVariables,
  .ofVars "automation_trigger" "Automation trigger"
    "Conditions gating an automation run" automationVariables,
  .ofVars "webhook_event" "Webhook event"
    "Conditions deciding whether a webhook fires" webhookVariables,
  .ofVars "attribute_auto_apply" "Attribute auto-apply"
    "Conditions that attach an attribute to a booking automatically"
    (bookingVariables ++ customerVariables),
  .ofVars "message_template" "Message template"
    "Conditions selecting which message template is sent" messageVariables,
  .ofVars "promotion_targeting" "Promotion targeting"
    "Conditions deciding which customers and bookings a promotion applies to" promotionVariables]

theorem context_ids_nodup : (contexts.map Context.id).Nodup := by decide

end Eligibility.Builtin
