import Gazetteer.Http.Server
import Gazetteer.Proofs.Atomicity
import Gazetteer.Proofs.Attempts

/-!
# Requests that fail

A request is taken apart before anything is done, and its caller comes first. So a request without a
caller is refused whatever else it says, and one that fails leaves everything as it was. Only an
attempt at geocoding a merchant is written down when it fails.

* `Request.Anonymous`, `serve_anonymous`: requests that name no caller.
* `Settled`: calls that answer well or leave no mark.
* `prepare_settled`: all calls but one are of this kind.
* `requests_fail_without_mark`: what is left of a request that fails.
-/

set_option autoImplicit false

namespace Gazetteer.Http

/-! ## What is sent -/

/-- The response as it is sent for a request. -/
def Response.sentFor (r : Request) (response : Response) : Response :=
  if r.method = "HEAD" then { response with content := response.content.headersOnly } else response

theorem Response.status_sentFor (r : Request) (response : Response) :
    (response.sentFor r).status = response.status := by
  rw [sentFor]
  split <;> rfl

theorem serve_of_refused {s : Server} {r : Request} {d : Directory} {refusal : Refusal}
    (refused : (callOf r).bind (prepare s r) = .error refusal) :
    serve s r d = (refusal.response.sentFor r, d) := by
  rw [serve, refused]
  rfl

theorem serve_of_prepared {s : Server} {r : Request} {d : Directory} {x : Action Response}
    (prepared : (callOf r).bind (prepare s r) = .ok x) :
    serve s r d = ((carryOut x d).1.sentFor r, (carryOut x d).2) := by
  rw [serve, prepared]
  rfl

/-! ## Requests without a caller -/

/-- The calls that anybody may make. -/
def Call.isOpen : Call → Bool
  | .health | .importTemplate => true
  | _ => false

/-- The header with the id of the caller is missing, or no id can be read in it. -/
def Request.Anonymous (r : Request) : Prop :=
  ∀ v, r.headerText? userIdHeader = some v → Text.readSigned? (Text.trim v) = none

theorem principal_of_anonymous {r : Request} (h : r.Anonymous) :
    principal r = .error .unauthorized := by
  have unread : (r.headerText? userIdHeader).bind (fun v => Text.readSigned? (Text.trim v)) = none :=
    Option.bind_eq_none_iff.2 h
  rw [principal, unread]

/-- The caller is looked for before the path, the query and the body are. -/
theorem prepare_of_anonymous {r : Request} (h : r.Anonymous) (s : Server) {call : Call}
    (closed : call.isOpen = false) : prepare s r call = .error .unauthorized := by
  have refused := principal_of_anonymous h
  cases call
  case health => cases closed
  case importTemplate => cases closed
  all_goals
    rw [prepare, refused]
    rfl

theorem serve_anonymous {r : Request} (h : r.Anonymous) (s : Server) (d : Directory) {call : Call}
    (asked : callOf r = .ok call) (closed : call.isOpen = false) :
    serve s r d = (Refusal.unauthorized.response.sentFor r, d) := by
  refine serve_of_refused ?_
  rw [asked]
  exact prepare_of_anonymous h s closed

/-! ## Calls that answer well or leave no mark -/

/-- A call whose answers are no failures, and whose failures leave everything as it was. -/
structure Settled (x : Action Response) : Prop where
  good : ∀ d response d', x d = (.ok response, d') → response.status < 400
  atomic : Action.Atomic x

theorem Settled.answer {α : Type} {x : Action α} (hx : Action.Atomic x) {f : α → Response}
    (hf : ∀ a, (f a).status < 400) : Settled (x >>= fun a => pure (f a)) := by
  have mapped : (x >>= fun a => pure (f a)) = f <$> x := bind_pure_comp f x
  rw [mapped]
  refine ⟨?_, .map f hx⟩
  intro d response d' h
  obtain ⟨a, _, rfl⟩ := Action.map_eq_ok h
  exact hf a

theorem Settled.pure {response : Response} (h : response.status < 400) :
    Settled (Pure.pure response) where
  good := by
    rintro d _ _ ⟨⟩
    exact h
  atomic := by
    rintro d e d' ⟨⟩

theorem ok_good (j : Json) : (ok j).status < 400 := by
  show 200 < 400
  decide

theorem created_good (j : Json) : (created j).status < 400 := by
  show 201 < 400
  decide

theorem geocode_settled (s : Server) (request : GeocodeRequest) : Settled (geocode s request) := by
  rw [geocode]
  split
  · exact .answer (Geocoding.save_atomic _ _ _ _) fun _ => ok_good _
  · exact .answer (Geocoding.resolve_atomic _ _) fun _ => ok_good _

/-! ## What is prepared -/

/-- Whatever is prepared, if anything is, satisfies a condition. -/
def Prepares {α : Type} (P : α → Prop) (x : Except Refusal α) : Prop := ∀ a, x = .ok a → P a

namespace Prepares

variable {α β : Type} {P : α → Prop}

theorem ok {a : α} (h : P a) : Prepares P (.ok a) := by
  rintro _ ⟨⟩
  exact h

/-- Nothing needs to be known of a part of the request. -/
theorem after {x : Except Refusal β} {f : β → Except Refusal α} (h : ∀ b, Prepares P (f b)) :
    Prepares P (x >>= f) := by
  intro a prepared
  obtain ⟨b, _, rest⟩ := bind_eq_ok prepared
  exact h b a rest

end Prepares

/-- All calls but geocoding on demand are settled, whatever request they are taken from. -/
theorem prepare_settled (s : Server) (r : Request) {call : Call}
    (other : ∀ part, call ≠ .geocodeMerchant part) : Prepares Settled (prepare s r call) := by
  cases call with
  | health => exact .ok (.pure (ok_good _))
  | createMerchant =>
    refine .after fun who => .after fun draft => .ok (.answer ?_ fun _ => created_good _)
    rw [Merchants.create_eq]
    exact .guarded _ _
  | listMerchants =>
    exact .after fun who => .after fun search => .after fun paging =>
      .ok (.answer (.check _) fun _ => ok_good _)
  | importMerchants =>
    refine .after fun who => .after fun auto => .after fun bytes =>
      .ok (.answer ?_ fun _ => ok_good _)
    exact Import.importBytes_atomic s.importer who (auto.getD true) bytes
  | importTemplate =>
    refine .ok (.pure ?_)
    show 200 < 400
    decide
  | findMerchant part =>
    refine .after fun who => .after fun id => .ok (.answer ?_ fun _ => ok_good _)
    rw [Merchants.find_eq]
    exact .guarded _ _
  | updateMerchant part =>
    refine .after fun who => .after fun id => .after fun u =>
      .ok (.answer ?_ fun _ => ok_good _)
    rw [Merchants.update_eq]
    exact .guarded _ _
  | deleteMerchant part =>
    refine .after fun who => .after fun id => .ok (.answer ?_ fun _ => ok_good _)
    rw [Merchants.delete_eq]
    exact .guarded _ _
  | geocodeMerchant part => exact absurd rfl (other part)
  | createPoint part =>
    refine .after fun who => .after fun merchant => .after fun draft =>
      .ok (.answer ?_ fun _ => created_good _)
    rw [Points.create_eq]
    exact .guarded _ _
  | listPoints part =>
    exact .after fun who => .after fun merchant => .after fun search => .after fun paging =>
      .ok (.answer (.check _) fun _ => ok_good _)
  | nearby =>
    exact .after fun who => .after fun longitude => .after fun latitude => .after fun radius =>
      .after fun limit => .ok (.answer (Geocoding.nearby_atomic _ _ _ _) fun _ => ok_good _)
  | findPoint part =>
    exact .after fun who => .after fun id => .ok (.answer (.check _) fun _ => ok_good _)
  | updatePoint part =>
    refine .after fun who => .after fun id => .after fun draft =>
      .ok (.answer ?_ fun _ => ok_good _)
    rw [Points.update_eq]
    exact .guarded _ _
  | deletePoint part =>
    refine .after fun who => .after fun id => .ok (.answer ?_ fun _ => ok_good _)
    rw [Points.delete_eq]
    exact .guarded _ _
  | createTag =>
    refine .after fun who => .after fun draft => .ok (.answer ?_ fun _ => created_good _)
    rw [Tags.create_eq]
    exact .guarded _ _
  | listTags =>
    exact .after fun who => .after fun search => .after fun category => .after fun paging =>
      .ok (.answer (.check _) fun _ => ok_good _)
  | findTag part =>
    exact .after fun who => .after fun id => .ok (.answer (.check _) fun _ => ok_good _)
  | updateTag part =>
    refine .after fun who => .after fun id => .after fun draft =>
      .ok (.answer ?_ fun _ => ok_good _)
    rw [Tags.update_eq]
    exact .guarded _ _
  | deleteTag part =>
    refine .after fun who => .after fun id => .ok (.answer ?_ fun _ => ok_good _)
    rw [Tags.delete_eq]
    exact .guarded _ _
  | geocode => exact .after fun who => .after fun request => .ok (geocode_settled s request)

/-- What geocoding on demand was prepared from. -/
theorem prepare_geocodeMerchant {s : Server} {r : Request} {part : String} {x : Action Response}
    (h : prepare s r (.geocodeMerchant part) = .ok x) :
    ∃ who id, pathId part = .ok id ∧
      x = (fun m => ok (Wire.merchantJson m)) <$> Merchants.geocode s.merchantChain who id := by
  obtain ⟨who, _, h⟩ := bind_eq_ok h
  obtain ⟨id, named, h⟩ := bind_eq_ok h
  cases h
  exact ⟨who, id, named, bind_pure_comp _ _⟩

/-! ## Requests that fail -/

variable {d d' : Directory}

/-- Carrying out a settled call ends well or leaves no mark. -/
theorem Settled.failed {x : Action Response} (h : Settled x)
    (failed : 400 ≤ (carryOut x d).1.status) :
    (carryOut x d).2.tables = d.tables ∧ (carryOut x d).2.events = d.events ∧
      (carryOut x d).2.queue = d.queue := by
  rw [carryOut] at failed ⊢
  cases hx : x d with
  | mk answer left =>
    rw [hx] at failed
    cases answer with
    | ok response =>
      have good := h.good d response left hx
      exact absurd failed (Nat.not_le.2 good)
    | error e =>
      obtain ⟨ls, rfl⟩ := h.atomic d e left hx
      exact ⟨rfl, rfl, rfl⟩

/-- What is left of an attempt at geocoding a merchant on request, if it fails. -/
theorem geocodeMerchant_failed {chain : Option (List Provider)} {who : Principal} {id : Int}
    (kept : d.tables.MerchantsKept d.engine)
    (failed : 400 ≤ (carryOut
      ((fun m => ok (Wire.merchantJson m)) <$> Merchants.geocode chain who id) d).1.status) :
    let left :=
      (carryOut ((fun m => ok (Wire.merchantJson m)) <$> Merchants.geocode chain who id) d).2
    left.events = d.events ∧ left.queue = d.queue ∧
      (left.tables = d.tables ∨ d.tables.OnlyTried id left.tables) := by
  rw [carryOut, Action.map_apply] at failed ⊢
  cases hx : Merchants.geocode chain who id d with
  | mk answer left =>
    rw [hx] at failed
    cases answer with
    | ok m => exact absurd failed (Nat.not_le.2 (ok_good (Wire.merchantJson m)))
    | error e => exact Merchants.geocode_failed kept hx

/-- A request that fails announces nothing and submits nothing. It leaves the tables as they were,
unless it asked for the geocoding of a merchant: then an attempt may be written down. -/
theorem serve_failed (kept : d.tables.MerchantsKept d.engine) (s : Server) (r : Request)
    (failed : 400 ≤ (serve s r d).1.status) :
    (serve s r d).2.events = d.events ∧ (serve s r d).2.queue = d.queue ∧
      ((serve s r d).2.tables = d.tables ∨
        ∃ part id, callOf r = .ok (.geocodeMerchant part) ∧ pathId part = .ok id ∧
          d.tables.OnlyTried id (serve s r d).2.tables) := by
  cases hc : (callOf r).bind (prepare s r) with
  | error refusal =>
    rw [serve_of_refused hc]
    exact ⟨rfl, rfl, .inl rfl⟩
  | ok x =>
    rw [serve_of_prepared hc] at failed ⊢
    rw [Response.status_sentFor] at failed
    obtain ⟨call, asked, prepared⟩ := bind_eq_ok hc
    by_cases geocodes : ∃ part, call = .geocodeMerchant part
    · obtain ⟨part, rfl⟩ := geocodes
      obtain ⟨who, id, named, rfl⟩ := prepare_geocodeMerchant prepared
      obtain ⟨events, queue, same | tried⟩ := geocodeMerchant_failed kept failed
      · exact ⟨events, queue, .inl same⟩
      · exact ⟨events, queue, .inr ⟨part, id, asked, named, tried⟩⟩
    · have settled : Settled x :=
        prepare_settled s r (fun part same => geocodes ⟨part, same⟩) x prepared
      obtain ⟨tables, events, queue⟩ := settled.failed failed
      exact ⟨events, queue, .inl tables⟩

/-- A request that reaches a call other than the two open ones without naming a caller is refused as
unauthorized, whatever else it says; to a question for headers only, the answer has no content. And a
request that fails leaves tables, ids and events as they were, except that an attempt at geocoding a
merchant may be written down. -/
theorem requests_fail_without_mark (d : Directory) (reached : Attainable d) (s : Server)
    (r : Request) :
    (∀ call, callOf r = .ok call → call.isOpen = false → r.Anonymous →
      serve s r d =
        (if r.method = "HEAD" then ⟨401, .empty⟩
          else errorResponse 401 "unauthorized" "missing or invalid x-user-id header", d)) ∧
    (400 ≤ (serve s r d).1.status →
      (serve s r d).2.events = d.events ∧ (serve s r d).2.queue = d.queue ∧
        ((serve s r d).2.tables = d.tables ∨
          ∃ part id, callOf r = .ok (.geocodeMerchant part) ∧ pathId part = .ok id ∧
            d.tables.OnlyTried id (serve s r d).2.tables)) := by
  refine ⟨?_, serve_failed reached.merchantsKept s r⟩
  intro call asked closed anonymous
  rw [serve_anonymous anonymous s d asked closed, Response.sentFor]
  split <;> rfl

/-- A bakery with a point is in the directory. Its merchants are listed for a caller who gives a name
in place of an id, somebody else deletes it, and its owner has it geocoded where nobody knows the
address. -/
theorem refused_requests :
    let ada : Principal := ⟨1, "ada"⟩
    let chain := [Provider.fixed "map" [] fun a => .failed (.noResults a)]
    let s : Server := ⟨chain, true, ⟨.usual, true, fun _ => none⟩, 0⟩
    let bakery : MerchantFields :=
      { MerchantFields.blank with title := "Bakery", address := "Main Street 1" }
    let door : GeoPointDraft := ⟨some 1, "door", 13, 52, "Back Street 2", 90, ""⟩
    let d := advance [.call ⟨ada, default, .merchants (.create ⟨bakery, [], [], true⟩)⟩,
      .call ⟨ada, default, .points (.create door)⟩] (.empty .memory default)
    let list : Request := ⟨"GET", "/api/v1/merchants?page=one", [("X-User-Id", "ada")], []⟩
    let delete : Request := ⟨"DELETE", "/api/v1/merchants/1", [("X-User-Id", "2")], []⟩
    let geocode : Request := ⟨"POST", "/api/v1/merchants/1/geocode", [("X-User-Id", "1")], []⟩
    d.tables.merchants.rows.map Merchant.id = [1] ∧
      (d.tables.pointsOf 1).map GeoPoint.id = [1] ∧
      serve s list d =
        (errorResponse 401 "unauthorized" "missing or invalid x-user-id header", d) ∧
      ((serve s delete d).1.status = 403 ∧ (serve s delete d).2.tables = d.tables ∧
        (serve s delete d).2.events = d.events) ∧
      (serve s geocode d).1.status = 502 ∧ (serve s geocode d).2.events = d.events ∧
        d.tables.OnlyTried 1 (serve s geocode d).2.tables := by
  intro ada chain s bakery door d list delete geocode
  have reached : Attainable d := ⟨.memory, default, _, rfl⟩
  have asked : callOf list = .ok .listMerchants := ok_of_toOption (by decide +kernel)
  have anonymous : list.Anonymous := by
    have header : list.headerText? userIdHeader = some "ada" := by decide +kernel
    intro v hv
    cases header.symm.trans hv
    decide +kernel
  have denied : (serve s delete d).1.status = 403 := by decide +kernel
  have deletes : callOf delete = .ok (.deleteMerchant "1") := ok_of_toOption (by decide +kernel)
  have unknown : (serve s geocode d).1.status = 502 := by decide +kernel
  have geocodes : callOf geocode = .ok (.geocodeMerchant "1") :=
    ok_of_toOption (by decide +kernel)
  have once : (serve s geocode d).2.tables.merchants.rows.map Merchant.geocodeAttempts = [1] := by
    decide +kernel
  have never : d.tables.merchants.rows.map Merchant.geocodeAttempts = [0] := by decide +kernel
  have named : pathId "1" = .ok 1 := ok_of_toOption (by decide +kernel)
  obtain ⟨refused, _⟩ := requests_fail_without_mark d reached s list
  obtain ⟨_, unmarked⟩ := requests_fail_without_mark d reached s delete
  obtain ⟨_, marked⟩ := requests_fail_without_mark d reached s geocode
  obtain ⟨silent, _, same⟩ := unmarked (by rw [denied]; decide)
  obtain ⟨quiet, _, tried⟩ := marked (by rw [unknown]; decide)
  refine ⟨by decide +kernel, by decide +kernel, refused _ asked rfl anonymous,
    ⟨denied, ?_, silent⟩, unknown, quiet, ?_⟩
  · obtain same | ⟨part, id, asked, _⟩ := same
    · exact same
    · cases deletes.symm.trans asked
  · obtain same | ⟨part, id, asked, number, tried⟩ := tried
    · rw [same, never] at once
      cases once
    · cases geocodes.symm.trans asked
      cases named.symm.trans number
      exact tried

/-- Who asks for the headers of the list of merchants only, and names no caller, is refused by a
response that carries no error. -/
theorem refused_without_content :
    let s : Server := ⟨[], true, ⟨.usual, true, fun _ => none⟩, 0⟩
    let d := Directory.empty .memory default
    let r : Request := ⟨"HEAD", "/api/v1/merchants", [], []⟩
    callOf r = .ok .listMerchants ∧ r.Anonymous ∧
      ¬∃ message, (serve s r d).1 = errorResponse 401 "unauthorized" message := by
  intro s d r
  have asked : callOf r = .ok .listMerchants := ok_of_toOption (by decide +kernel)
  have anonymous : r.Anonymous := by
    have header : r.headerText? userIdHeader = none := rfl
    intro v hv
    cases header.symm.trans hv
  have refused : serve s r d = (Refusal.unauthorized.response.sentFor r, d) :=
    serve_anonymous anonymous s d asked rfl
  refine ⟨asked, anonymous, ?_⟩
  rintro ⟨message, same⟩
  rw [refused] at same
  cases congrArg Response.content same

end Gazetteer.Http
