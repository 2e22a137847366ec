import Gazetteer.Failure
import Gazetteer.GeoPoint

/-!
# Geocoding providers

A provider resolves an address to a place, fails, or stops without an answer. What it answers may
depend on everything that was asked before.

* `Outcome`: what comes of asking.
* `Request`, `Delivery`: what a provider sends over the network and what becomes of it.
* `Lookup`: a record of one asking.
* `Provider`: a name and a way to answer.
* `Provider.fixed`: a provider that answers from a list of addresses.
-/

set_option autoImplicit false

namespace Gazetteer

/-- What comes of asking a provider. -/
inductive Outcome where
  | resolved (r : GeocodeResult)
  | failed (e : LookupFailure)
  /-- The provider stopped without an answer. -/
  | crashed

/-- A request to a web service: path and query, and the program that asks. -/
structure Request where
  target : String
  userAgent : Option String

/-- What becomes of a request. -/
inductive Delivery where
  /-- The service could not be reached. -/
  | unreachable
  /-- The service closed the connection without an answer. -/
  | dropped
  | replied (status : Nat) (body : String)

/-- The answer of a provider, with the requests that reached its service; none are recorded of a
provider that asks no service. -/
structure Answer where
  outcome : Outcome
  requests : Option (List Request)

/-- A record of one asking. -/
structure Lookup where
  provider : String
  address : String
  requests : Option (List Request)

/-- A way to resolve addresses. -/
structure Provider where
  name : String
  /-- The answer to an address, given everything that was asked before. -/
  answer : List Lookup → String → Answer

/-- A provider that knows some addresses and has one answer to all others. -/
def Provider.fixed (name : String) (known : List (String × Outcome)) (other : String → Outcome) :
    Provider :=
  ⟨name, fun _ address => ⟨(known.lookup address).getD (other address), none⟩⟩

end Gazetteer
