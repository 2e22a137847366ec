import Gazetteer.Provider.Basic
import Gazetteer.Text.Blank
import Gazetteer.Text.Percent

/-!
# Geocoding web services

A web service resolves an address by one request. What the service says is read only from a reply
with status 200.

* `WebService`: how a service is asked and understood.
* `WebService.outcome`: what a delivery means.
* `WebService.ask`: asks the service once.
* `WebService.toProvider`: the service as a provider, over a network.
-/

set_option autoImplicit false

namespace Gazetteer

/-- How a service is asked and understood. -/
structure WebService where
  name : String
  /-- What stands in the way of any request. -/
  obstacle : Option LookupFailure
  /-- The request for an address. -/
  request : String → Request
  /-- The result for an address in the text of a reply. -/
  read : (address body : String) → Except LookupFailure GeocodeResult

/-- A number as a score, which goes from 0 to 100. -/
def toScore (n : Int) : Int := max 0 (min 100 n)

theorem toScore_mem (n : Int) : 0 ≤ toScore n ∧ toScore n ≤ 100 := by
  rw [toScore]
  omega

/-- The text of a reply does not begin with a byte order mark. -/
def withoutMark (body : String) : String :=
  match body.toList with
  | '\uFEFF' :: rest => String.ofList rest
  | _ => body

/-- A program name can be sent: it holds no control character but the tab. -/
def isSendable (userAgent : String) : Bool :=
  userAgent.toList.all fun c => c = '\t' || (32 ≤ c.toNat && c.toNat ≠ 127)

namespace WebService

/-- What a delivery means for an address. -/
def outcome (s : WebService) (address : String) : Delivery → Except LookupFailure GeocodeResult
  | .unreachable => .error (.transport "the service cannot be reached")
  | .dropped => .error (.transport "the connection was closed")
  | .replied status body =>
    if status = 200 then s.read address (withoutMark body) else .error (.status status)

/-- Asks a service about an address. A blank address is not sent, nor is a request with a program
name that cannot be sent. -/
def ask (s : WebService) (deliver : Request → Delivery) (address : String) :
    Except LookupFailure GeocodeResult × List Request :=
  let request := s.request address
  if Text.isBlankText address then (.error .emptyAddress, [])
  else
    match s.obstacle with
    | some e => (.error e, [])
    | none =>
      if !request.userAgent.all isSendable then
        (.error (.transport "the request cannot be sent"), [])
      else
        match deliver request with
        | .unreachable => (s.outcome address .unreachable, [])
        | delivery => (s.outcome address delivery, [request])

/-- The result of asking as the outcome of a provider. -/
def toOutcome : Except LookupFailure GeocodeResult → Outcome
  | .ok r => .resolved r
  | .error e => .failed e

/-- The service as a provider. What the network does may depend on everything that was asked
before. -/
def toProvider (s : WebService) (network : List Lookup → Request → Delivery) : Provider :=
  ⟨s.name, fun asked address =>
    let (result, requests) := s.ask (network asked) address
    ⟨toOutcome result, some requests⟩⟩

end WebService

/-- A network on which no service can be reached. -/
def noNetwork : List Lookup → Request → Delivery := fun _ _ => .unreachable

end Gazetteer
