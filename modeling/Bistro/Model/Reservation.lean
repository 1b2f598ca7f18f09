import Bistro.Model.Record

/-!
# Reservations

What a guest asks for, what the backend answers, and a reservation as it is stored.
-/

namespace Bistro

/-- The five values of the reservation form, which are sent as they were typed. -/
structure ReservationRequest where
  userName : String
  restaurantName : String
  year : String
  month : String
  day : String
  deriving DecidableEq, Repr

instance : Record ReservationRequest where
  shape := .record "ReservationRequest" <|
    .cons "user_name" true .text <| .cons "restaurant_name" true .text <|
    .cons "year" true .text <| .cons "month" true .text <| .cons "day" true .text .nil
  ofValue := fun (u, r, y, m, d, ()) => ⟨u, r, y, m, d⟩
  toValue := fun q => (q.userName, q.restaurantName, q.year, q.month, q.day, ())

/-- Whether the reservation was recorded; an answer that does not say so means no. -/
structure ReservationResponse where
  status : Bool
  deriving DecidableEq, Repr

instance : Record ReservationResponse where
  shape := .record "ReservationResponse" <| .cons "status" false .boolean .nil
  ofValue := fun (s, ()) => ⟨s⟩
  toValue := fun r => (r.status, ())

/-- What the guest is told about the reservation that was asked for. -/
def ReservationResponse.outcome (response : ReservationResponse) (q : ReservationRequest) :
    String :=
  if response.status then
    "Reservation confirmed for " ++ q.userName ++ " at " ++ q.restaurantName ++ " on " ++ q.year ++
      "-" ++ q.month ++ "-" ++ q.day
  else
    "Reservation for " ++ q.userName ++ " at " ++ q.restaurantName ++
      " was not recorded, please try again."

structure ReservationDate where
  year : Int32
  month : Int32
  day : Int32
  deriving DecidableEq, Repr

instance : Record ReservationDate where
  shape := .record "ReservationDate" <|
    .cons "year" false .integer <| .cons "month" false .integer <| .cons "day" false .integer .nil
  ofValue := fun (y, m, d, ()) => ⟨y, m, d⟩
  toValue := fun d => (d.year, d.month, d.day, ())

/-- A reservation as the backend stores it. -/
structure Reservation where
  userName : String
  restaurantName : String
  time : ReservationDate
  deriving DecidableEq, Repr

instance : Record Reservation where
  shape := .record "Reservation" <|
    .cons "user_name" false .text <| .cons "restaurant_name" false .text <|
    .cons "time" false (Record.shape ReservationDate) .nil
  ofValue := fun (u, r, t, ()) => ⟨u, r, Record.ofValue t⟩
  toValue := fun q => (q.userName, q.restaurantName, Record.toValue q.time, ())

end Bistro
