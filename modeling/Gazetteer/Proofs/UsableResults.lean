import Gazetteer.Proofs.Consultation
import Gazetteer.Proofs.JsonNumbers
import Gazetteer.Proofs.Refusals
import Gazetteer.Provider.Nominatim

/-!
# What the result of a service is good for

A service has a result for an address only from a reply with status 200. The result names the
address and the service, and its score lies between 0 and 100. The coordinates that Baidu Maps
writes are numbers of JSON and therefore finite. Those of Nominatim are texts in the free form of a
number, and a name without digits or too large a number is a result all the same.

* `WebService.ask_eq_ok_iff`: when a service has a result.
* `WebService.Resolves`: what it says of the asking.
* `services_usable`: what else it has, and that the chain goes on when there is none.
-/

set_option autoImplicit false

namespace Gazetteer

open Json (Decoder RecordField)
open Decimal (isFinite Moderate)

/-! ## Results of services -/

namespace WebService

variable {s : WebService} {deliver : Request → Delivery} {address : String} {r : GeocodeResult}

/-- A service has a result when it reads one from a reply with status 200 to a request that was
sent. -/
theorem ask_eq_ok_iff : (s.ask deliver address).1 = .ok r ↔
    Text.isBlankText address = false ∧ s.obstacle = none ∧
      (s.request address).userAgent.all isSendable = true ∧
      ∃ body, deliver (s.request address) = .replied 200 body ∧
        s.read address (withoutMark body) = .ok r := by
  constructor
  · intro answered
    have shown : ¬Text.isBlankText address = true := by
      intro blank
      rw [ask, if_pos blank] at answered
      cases answered
    have clear : s.obstacle = none := by
      cases obstacle : s.obstacle with
      | none => rfl
      | some e =>
        simp only [ask, shown, obstacle] at answered
        cases answered
    have sendable : (s.request address).userAgent.all isSendable = true := by
      by_contra refused
      replace refused := Bool.eq_false_of_not_eq_true refused
      simp only [ask, shown, clear, refused] at answered
      cases answered
    rw [ask_of_sent s deliver shown clear sendable] at answered
    refine ⟨by simpa using shown, clear, sendable, ?_⟩
    cases delivery : deliver (s.request address) with
    | unreachable =>
      rw [delivery] at answered
      cases answered
    | dropped =>
      rw [delivery] at answered
      cases answered
    | replied status body =>
      rw [delivery, outcome] at answered
      split at answered
      · next success => exact ⟨body, by rw [success], answered⟩
      · cases answered
  · rintro ⟨shown, clear, sendable, body, replied, read⟩
    rw [ask_of_sent s deliver (by simp [shown]) clear sendable, replied, outcome, if_pos rfl, read]

/-- What a result says of the address that a service was asked about, and what it was read from. -/
structure Resolves (s : WebService) (deliver : Request → Delivery) (address body : String)
    (r : GeocodeResult) : Prop where
  shown : Text.isBlankText address = false
  replied : deliver (s.request address) = .replied 200 body
  score : 0 ≤ r.score ∧ r.score ≤ 100
  address_eq : r.address = address
  provider_eq : r.provider = s.name

end WebService

namespace Baidu

theorem locationDecoder_yields :
    locationDecoder.Yields fun l => isFinite l.1 = true ∧ isFinite l.2 = true := by
  refine Decoder.record_yields ?_ (by decide)
  intro f hf
  simp only [List.mem_cons, List.not_mem_nil, or_false] at hf
  obtain rfl | rfl := hf
  · exact .of_yields rfl Decoder.float_yields fun _ _ x l => ⟨x, l.2⟩
  · exact .of_yields rfl Decoder.float_yields fun _ _ x l => ⟨l.1, x⟩

/-- A place on the map. -/
def Place.Located (p : Place) : Prop := isFinite p.longitude = true ∧ isFinite p.latitude = true

theorem placeDecoder_yields : placeDecoder.Yields Place.Located := by
  refine Decoder.record_yields ?_ ⟨by decide, by decide⟩
  intro f hf
  simp only [List.mem_cons, List.not_mem_nil, or_false] at hf
  obtain rfl | rfl | rfl := hf
  · exact .of_yields rfl locationDecoder_yields fun _ _ l _ => l
  · exact .of_forall rfl fun _ _ located => located
  · exact .of_forall rfl fun _ _ located => located

theorem replyDecoder_yields : replyDecoder.Yields fun r => ∀ p, r.place = some p → p.Located := by
  refine Decoder.record_yields ?_ (by rintro p ⟨⟩)
  intro f hf
  simp only [List.mem_cons, List.not_mem_nil, or_false] at hf
  obtain rfl | rfl | rfl := hf
  · exact .of_forall rfl fun _ _ located => located
  · exact .of_forall rfl fun _ _ located => located
  · exact .of_yields rfl (Decoder.optional_yields placeDecoder_yields) fun _ _ place _ => place

/-- A result of Baidu Maps has finite coordinates. -/
theorem read_eq_ok {address body : String} {r : GeocodeResult} (h : read address body = .ok r) :
    ∃ p : Place, p.Located ∧ r = p.toResult address := by
  rw [read] at h
  cases decoded : Decoder.ofText replyDecoder body with
  | error e =>
    rw [decoded] at h
    cases h
  | ok reply =>
    simp only [decoded] at h
    split at h
    · cases h
    split at h
    · cases h
    · next p place =>
      cases h
      exact ⟨p, Decoder.ofText_yields replyDecoder_yields decoded p place, rfl⟩

end Baidu

namespace Nominatim

theorem coordinate_isFinite_iff {what s : String} {x : Float} (h : coordinate what s = .ok x) :
    isFinite x = true ↔ Moderate (Text.trim s) := by
  rw [coordinate] at h
  split at h
  · next read =>
    cases h
    exact Decimal.isFinite_read_iff read
  · cases h

/-- A result of Nominatim is the first place of the answer. Its coordinates are finite where the
texts of the place write moderate numbers. -/
theorem read_eq_ok {address body : String} {r : GeocodeResult} (h : read address body = .ok r) :
    ∃ place more, Decoder.ofText (.listOf placeDecoder) body = .ok (place :: more) ∧
      (isFinite r.latitude = true ↔ Moderate (Text.trim place.latitude)) ∧
      (isFinite r.longitude = true ↔ Moderate (Text.trim place.longitude)) ∧
      r.score = score place.importance ∧ r.address = address ∧ r.provider = name := by
  rw [read] at h
  split at h
  · cases h
  · cases h
  · next place more decoded =>
    obtain ⟨latitude, north, h⟩ := bind_eq_ok h
    obtain ⟨longitude, east, h⟩ := bind_eq_ok h
    cases h
    exact ⟨place, more, decoded, coordinate_isFinite_iff north, coordinate_isFinite_iff east, rfl,
      rfl, rfl⟩

end Nominatim

/-! ## Results in a chain -/

/-- Asked at its turn in a chain, a service has a result, which is that of the chain, or the chain
goes on to those behind it. A result comes from a reply with status 200 about an address that is not
blank; it names the address and the service, and its score lies between 0 and 100. The coordinates
of Baidu Maps are finite. Those of Nominatim are finite where the texts of the first place in the
answer write moderate numbers, and only there. -/
theorem services_usable (agent key : String) (network : List Lookup → Request → Delivery)
    (address : String) (last : Option (String × LookupFailure)) (others : List Provider)
    (d : Directory) :
    let result (s : WebService) := (s.ask (network d.lookups) address).1
    let chain (s : WebService) :=
      Geocoding.askInOrder address last (s.toProvider network :: others) d
    let after (s : WebService) :=
      Geocoding.havingAsked address [⟨s.toProvider network, d.lookups⟩] d
    (∀ s e, result s = .error e →
      chain s = Geocoding.askInOrder address (some (s.name, e)) others (after s)) ∧
    (∀ s r, result s = .ok r → chain s = (.ok r, after s)) ∧
    (∀ r, result (Baidu.service key) = .ok r →
      (∃ body, (Baidu.service key).Resolves (network d.lookups) address body r) ∧
      isFinite r.longitude = true ∧ isFinite r.latitude = true) ∧
    ∀ r, result (Nominatim.service agent) = .ok r →
      ∃ body place more,
        (Nominatim.service agent).Resolves (network d.lookups) address body r ∧
        Decoder.ofText (.listOf Nominatim.placeDecoder) (withoutMark body) = .ok (place :: more) ∧
        (isFinite r.latitude = true ↔ Moderate (Text.trim place.latitude)) ∧
        (isFinite r.longitude = true ↔ Moderate (Text.trim place.longitude)) := by
  intro result chain after
  refine ⟨?_, ?_, ?_, ?_⟩
  · intro s e failed
    refine Geocoding.askInOrder_failed (p := s.toProvider network) ?_
    show WebService.toOutcome (result s) = _
    rw [failed, WebService.toOutcome]
  · intro s r answered
    refine Geocoding.askInOrder_ends (p := s.toProvider network) ?_
    show Geocoding.settled (WebService.toOutcome (result s)) = _
    rw [answered, WebService.toOutcome, Geocoding.settled]
  · intro r answered
    obtain ⟨shown, -, -, body, replied, read⟩ := WebService.ask_eq_ok_iff.1 answered
    obtain ⟨p, located, rfl⟩ := Baidu.read_eq_ok read
    exact ⟨⟨body, shown, replied, toScore_mem _, rfl, rfl⟩, located⟩
  · intro r answered
    obtain ⟨shown, -, -, body, replied, read⟩ := WebService.ask_eq_ok_iff.1 answered
    obtain ⟨place, more, decoded, north, east, scored, asked, named⟩ := Nominatim.read_eq_ok read
    have score : 0 ≤ r.score ∧ r.score ≤ 100 := scored ▸ toScore_mem _
    exact ⟨body, place, more, ⟨shown, replied, score, asked, named⟩, decoded, north, east⟩

/-- A place with coordinates in digits is found, and nobody else is asked. -/
theorem tower_found :
    let body := "[\x7b\"lat\":\"48.9\",\"lon\":\"2.3\"\x7d]"
    let map := (Nominatim.service "agent").toProvider fun _ _ => .replied 200 body
    let spare := Provider.fixed "spare" [] fun _ => .crashed
    ∃ r d, Geocoding.askInOrder "Tower" none [map, spare] (Directory.empty .sqlite default) =
        (.ok r, d) ∧ isFinite r.latitude = true ∧ isFinite r.longitude = true := by
  intro body map spare
  obtain ⟨-, answers, -, resolves⟩ := services_usable "agent" "key" (fun _ _ => .replied 200 body)
    "Tower" none [spare] (Directory.empty .sqlite default)
  obtain ⟨r, answered⟩ := ok_of_isOk
    (x := ((Nominatim.service "agent").ask (fun _ => .replied 200 body) "Tower").1)
    (by decide +kernel)
  obtain ⟨body', place, more, resolved, decoded, north, east⟩ := resolves r answered
  have same : body = body' := by injection resolved.replied
  have texts : (Decoder.ofText (.listOf Nominatim.placeDecoder) (withoutMark body)).map
      (List.map fun p => (p.latitude, p.longitude)) = .ok [("48.9", "2.3")] := by
    decide +kernel
  rw [same, decoded] at texts
  obtain ⟨⟨latitude, longitude⟩, -⟩ : (place.latitude = "48.9" ∧ place.longitude = "2.3") ∧
      more = [] := by simpa [Except.map] using texts
  refine ⟨r, _, answers _ r answered, north.2 ?_, east.2 ?_⟩
  · rw [latitude]
    exact ⟨489, -1, by decide, Decimal.below_of_small (by decide) (by decide)⟩
  · rw [longitude]
    exact ⟨23, -1, by decide, Decimal.below_of_small (by decide) (by decide)⟩

/-- A place whose latitude has no digits is a result, too. -/
theorem nan_resolved :
    let body := "[\x7b\"lat\":\"nan\",\"lon\":\"1\"\x7d]"
    ∃ r, ((Nominatim.service "agent").ask (fun _ => .replied 200 body) "x").1 = .ok r ∧
      isFinite r.latitude = false := by
  intro body
  have nan : ((Nominatim.service "agent").ask (fun _ => .replied 200 body) "x").1.map
      (fun r => isFinite r.latitude) = .ok false := by
    decide +kernel
  exact ok_of_map nan

end Gazetteer
