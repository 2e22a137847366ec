import Gazetteer.Merchant

/-!
# Events

Every change that a caller makes is announced by an event, which carries the entity as it is
afterwards, or as it was when it is gone, and who made the change.

* `EventKind`: what happened, with its names.
* `EventPayload`: the entity it happened to.
* `Event`: the announcement.
-/

set_option autoImplicit false

namespace Gazetteer

/-- What happened. -/
inductive EventKind where
  | merchantCreated
  | merchantUpdated
  | merchantDeleted
  | tagCreated
  | tagUpdated
  | tagDeleted
  | pointCreated
  | pointUpdated
  | pointDeleted
  deriving DecidableEq, Repr

namespace EventKind

def all : List EventKind := [
  .merchantCreated, .merchantUpdated, .merchantDeleted, .tagCreated, .tagUpdated, .tagDeleted,
  .pointCreated, .pointUpdated, .pointDeleted]

/-- The name under which an event is announced. -/
def topic : EventKind → String
  | .merchantCreated => "merchant.created"
  | .merchantUpdated => "merchant.updated"
  | .merchantDeleted => "merchant.deleted"
  | .tagCreated => "merchant_tag.created"
  | .tagUpdated => "merchant_tag.updated"
  | .tagDeleted => "merchant_tag.deleted"
  | .pointCreated => "geo_point.created"
  | .pointUpdated => "geo_point.updated"
  | .pointDeleted => "geo_point.deleted"

/-- The name of the kind in data. -/
def label : EventKind → String
  | .merchantCreated => "MerchantCreated"
  | .merchantUpdated => "MerchantUpdated"
  | .merchantDeleted => "MerchantDeleted"
  | .tagCreated => "MerchantTagCreated"
  | .tagUpdated => "MerchantTagUpdated"
  | .tagDeleted => "MerchantTagDeleted"
  | .pointCreated => "GeoPointCreated"
  | .pointUpdated => "GeoPointUpdated"
  | .pointDeleted => "GeoPointDeleted"

end EventKind

/-- The entity that an event is about. -/
inductive EventPayload where
  | merchant (m : Merchant)
  | tag (t : Tag)
  | point (p : GeoPoint)

/-- The id of the entity. -/
def EventPayload.entityId : EventPayload → Int
  | .merchant m => m.id
  | .tag t => t.id
  | .point p => p.id

/-- A change, and who made it. -/
structure Event where
  kind : EventKind
  payload : EventPayload
  doer : Principal

end Gazetteer
