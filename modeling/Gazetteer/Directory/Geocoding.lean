import Gazetteer.Directory
import Gazetteer.Metadata
import Gazetteer.Text.Blank

/-!
# Geocoding

An address is resolved by a chain of providers, asked in order until one answers. What was resolved
is kept as a point, and the points on record for an address and a source are looked at first.

* `resolve`: asks the chain.
* `save`: the point on record, or a new one.
* `link`: the point as one that a merchant holds.
* `batch`: several addresses, of which the failures are passed over.
* `nearby`: the points within a distance of a place.
* `runWaiting`: the jobs that wait, one after another.
-/

set_option autoImplicit false

namespace Gazetteer.Geocoding

/-! ## The chain -/

/-- Asks a provider and records it. -/
def ask (p : Provider) (address : String) : Action Outcome := fun d =>
  let answer := p.answer d.lookups address
  (.ok answer.outcome, { d with lookups := d.lookups ++ [⟨p.name, address, answer.requests⟩] })

/-- The failure of a chain, given the provider that was asked last and its failure. -/
def exhausted : Option (String × LookupFailure) → LookupFailure
  | none => .noProviders
  | some (name, e) => .allFailed name e

/-- Asks the providers in order until one answers. -/
def askInOrder (address : String) (last : Option (String × LookupFailure)) :
    List Provider → Action GeocodeResult
  | [] => .fail (.lookup (exhausted last))
  | p :: rest => do
    match ← ask p address with
    | .resolved r => return r
    | .failed e => askInOrder address (some (p.name, e)) rest
    | .crashed => .fail .crash

/-- An address holds more than blanks. -/
def requireAddress (address : String) : Except Failure Unit :=
  if Text.isBlankText address then .error (.lookup .emptyAddress) else .ok ()

/-- Resolves an address. -/
def resolve (chain : List Provider) (address : String) : Action GeocodeResult := do
  .ofExcept (requireAddress address)
  askInOrder address none chain

/-! ## Points on record -/

/-- Where an answer comes from and how fine it is, added to the metadata of the caller where those
are silent about it. -/
def withOrigin (r : GeocodeResult) (metadata : Json.Object) : Json.Object :=
  let named := Json.insertNew "provider" (.text r.provider) metadata
  if r.level.isEmpty then named else Json.insertNew "place_type" (.text r.level) named

/-- The draft of a point from an answer. -/
def resolvedDraft (r : GeocodeResult) (address source : String) (metadata : Json.Object) :
    GeoPointDraft :=
  { merchant := none, source := source, longitude := r.longitude, latitude := r.latitude,
    address := address, accuracy := r.score,
    metadata := Json.render (.object (withOrigin r metadata)) }

/-- Checks a draft and adds the point. -/
def addPoint (draft : GeoPointDraft) : Action GeoPoint := do
  .ofExcept draft.check
  let now ← Action.now
  .create fun e t => t.insertPoint e (draft.toPoint now)

/-- The point on record for an address and a source, as it is; or a new one. -/
def save (chain : List Provider) (address source : String) (metadata : Option Json.Object) :
    Action GeoPoint := do
  .ofExcept (requireAddress address)
  match ← .read fun d => d.tables.pointFor? address source with
  | some point => return point
  | none =>
    let answer ← resolve chain address
    addPoint (resolvedDraft answer address source (metadata.getD []))

/-! ## Points of a merchant -/

/-- The origin of a point, added to the metadata of a job where those are silent about it. -/
def withOriginOf (recorded metadata : Json.Object) : Json.Object :=
  recorded.foldl
    (fun ms m => if m.1 = "provider" ∨ m.1 = "place_type" then Json.insertNew m.1 m.2 ms else ms)
    metadata

/-- The draft of a copy of a point for a merchant. -/
def copyDraft (p : GeoPoint) (merchant : Int) (metadata : Json.Object) : GeoPointDraft :=
  { merchant := some merchant, source := p.source, longitude := p.longitude, latitude := p.latitude,
    address := p.address, accuracy := p.accuracy, metadata := Json.render (.object metadata) }

/-- The merchant's own point for the address and the source of another one, or a copy. -/
def copyFor (merchant : Int) (metadata : Option Json.Object) (p : GeoPoint) : Action GeoPoint := do
  let own ← .read fun d => d.tables.pointsOf merchant
  match own.find? fun q => q.address == p.address && q.source == p.source with
  | some point => return point
  | none =>
    let recorded ← .ofExcept p.metadataObject
    addPoint (copyDraft p merchant (withOriginOf recorded (metadata.getD [])))

/-- Resolves the address of a job and gives the point to its merchant. A point that another merchant
holds stays there, and is copied. -/
def link (chain : List Provider) (job : Job) : Action GeoPoint := do
  let point ← save chain job.address job.source job.metadata
  match job.merchant, point.merchant with
  | none, _ => return point
  | some merchant, some holder =>
    if holder = merchant then return point else copyFor merchant job.metadata point
  | some merchant, none =>
    .change fun _ t => t.setPointMerchant point.id (some merchant)
    return { point with merchant := some merchant }

/-! ## Several addresses -/

/-- Resolves addresses one after another and keeps what succeeds. Blank ones are passed over. -/
def batch (chain : List Provider) (source : String) : List String → Action (List GeoPoint)
  | [] => return []
  | address :: rest => do
    if Text.isBlankText address then batch chain source rest
    else
      match ← Action.attempt (save chain address source none) with
      | .ok point => return point :: (← batch chain source rest)
      | .error .crash => .fail .crash
      | .error _ => batch chain source rest

/-! ## Searching by distance -/

/-- A radius is a number, and not negative. -/
def requireRadius (radius : Float) : Except Failure Unit :=
  require (Decimal.isFinite radius && !(radius < 0)) .radius

/-- The points within a radius of a place. The limit bounds the candidates before distances are
measured. -/
def nearby (longitude latitude radius : Float) (limit : Nat) : Action (List GeoPoint) := do
  .ofExcept (requireLongitude longitude)
  .ofExcept (requireLatitude latitude)
  .ofExcept (requireRadius radius)
  .read fun d =>
    (d.tables.findInWindow d.engine (.around longitude latitude radius) limit).filter
      fun p => p.distanceTo latitude longitude ≤ radius

/-! ## Jobs in the background -/

/-- Runs a job. What comes of it is not reported, and a provider that crashes ends nothing but the
job. -/
def runJob (chain : List Provider) (job : Job) : Action Unit := do
  let _ ← Action.attempt (link chain job)
  return ()

/-- Runs jobs one after another. -/
def runJobs (chain : List Provider) : List Job → Action Unit
  | [] => return ()
  | job :: rest => do
    runJob chain job
    runJobs chain rest

/-- Runs the jobs that wait, until none is left. -/
def runWaiting (chain : List Provider) : Action Unit := fun d =>
  runJobs chain d.queue { d with queue := [] }

end Gazetteer.Geocoding
