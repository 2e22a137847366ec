import Gazetteer.Proofs.ImportRows
import Gazetteer.Proofs.InFlight
import Gazetteer.Proofs.StoreView

/-!
# The events tell the rows

Whoever follows the events has the merchants and the tags as they are stored, up to what events do
not tell: the date of the last change, and the count and the note that a failed attempt at geocoding
leaves in a row.

* `Roster`: the merchants and the tags by their ids; `replay`: those that events tell.
* `Tells`: some events say what became of a directory.
* `Announced`: a call that announces one change, or is refused.
* `Command.Publishes`: what a call has to announce.
* `events_replay`: whole runs.
-/

set_option autoImplicit false

namespace Gazetteer

/-! ## What events tell -/

/-- The row of a merchant as far as events tell it, its numbers by their value. -/
def Merchant.told (m : Merchant) : Merchant :=
  { m.row with
    longitude := m.longitude.map unsigned, latitude := m.latitude.map unsigned,
    geocodeAttempts := 0, geocodeDescription := "", updated := default }

/-- The row of a tag as far as events tell it. -/
def Tag.told (t : Tag) : Tag := { t with permission := .read, updated := default }

/-- What an event leaves of its entity. -/
def EventKind.leaves {α : Type} (kind : EventKind) (entity : α) : Option α :=
  match kind with
  | .merchantCreated | .tagCreated | .pointCreated => some entity
  | .merchantUpdated | .tagUpdated | .pointUpdated => some entity
  | .merchantDeleted | .tagDeleted | .pointDeleted => none

/-- The merchants and the tags by their ids. -/
structure Roster where
  merchants : Int → Option Merchant
  tags : Int → Option Tag

namespace Roster

def empty : Roster := ⟨fun _ => none, fun _ => none⟩

/-- As far as events tell it. -/
def told (r : Roster) : Roster :=
  ⟨Option.map Merchant.told ∘ r.merchants, Option.map Tag.told ∘ r.tags⟩

/-- The roster after an event: what was created or updated stands there as the event has it, and
what was deleted is gone. -/
def absorb (r : Roster) (e : Event) : Roster :=
  match e.payload with
  | .merchant m => { r with merchants := Function.update r.merchants m.id (e.kind.leaves m) }
  | .tag t => { r with tags := Function.update r.tags t.id (e.kind.leaves t) }
  | .point _ => r

/-- The roster that events tell, one after another. -/
def replay (events : List Event) : Roster := events.foldl absorb empty

variable {r r' : Roster}

theorem told_merchants (h : r.told = r'.told) (i : Int) (m : Option Merchant) :
    told { r with merchants := Function.update r.merchants i m } =
      told { r' with merchants := Function.update r'.merchants i m } := by
  obtain ⟨merchants, tags⟩ := Roster.mk.inj h
  rw [told, told, Function.comp_update, Function.comp_update, merchants, tags]

theorem told_tags (h : r.told = r'.told) (i : Int) (t : Option Tag) :
    told { r with tags := Function.update r.tags i t } =
      told { r' with tags := Function.update r'.tags i t } := by
  obtain ⟨merchants, tags⟩ := Roster.mk.inj h
  rw [told, told, Function.comp_update, Function.comp_update, merchants, tags]

theorem absorb_told (h : r.told = r'.told) (e : Event) :
    (r.absorb e).told = (r'.absorb e).told := by
  obtain ⟨kind, payload, who⟩ := e
  cases payload with
  | merchant m => exact told_merchants h _ _
  | tag t => exact told_tags h _ _
  | point p => exact h

theorem foldl_absorb_told (h : r.told = r'.told) (events : List Event) :
    (events.foldl absorb r).told = (events.foldl absorb r').told := by
  induction events generalizing r r' with
  | nil => exact h
  | cons e rest ih => exact ih (absorb_told h e)

end Roster

/-- The merchants and the tags that are stored. -/
def Tables.roster (t : Tables) : Roster := ⟨t.merchants.get?, t.tags.get?⟩

/-! ## Rows by their ids -/

namespace Table

variable {α : Type} [Keyed α]

theorem get?_insert_update (t : Table α) (a : α) :
    (t.insert a).get? = Function.update t.get? t.next (some (withKey t.next a)) := by
  funext i
  rw [get?_insert, Function.update_apply]
  split
  · next same => rw [same]
  · rfl

theorem get?_modify_update {t : Table α} {i : Int} {r : α} (h : t.get? i = some r) (f : α → α) :
    (t.modify i f).get? = Function.update t.get? i (some (withKey i (f r))) := by
  funext j
  rw [get?_modify, Function.update_apply]
  split
  · next same =>
    rw [same, h, Option.map_some, changed, if_pos (key_of_get? h)]
  · next other =>
    cases hj : t.get? j with
    | none => rfl
    | some x =>
      have ne : key x ≠ i := fun same => other ((key_of_get? hj).symm.trans same)
      rw [Option.map_some, changed, if_neg ne]

theorem get?_erase_update (t : Table α) (i : Int) :
    (t.erase i).get? = Function.update t.get? i none := by
  funext j
  rw [get?_erase, Function.update_apply]

end Table

/-! ## Events that say what became of a directory -/

/-- The new events lead from the old rows to the new ones. -/
structure Tells (es : List Event) (d d' : Directory) : Prop where
  events : d'.events = d.events ++ es
  rows : (es.foldl Roster.absorb d.tables.roster).told = d'.tables.roster.told

namespace Tells

theorem refl (d : Directory) : Tells [] d d := ⟨(List.append_nil _).symm, rfl⟩

theorem trans {d d₁ d₂ : Directory} {es es' : List Event} (h : Tells es d d₁)
    (h' : Tells es' d₁ d₂) : Tells (es ++ es') d d₂ where
  events := by rw [h'.events, h.events, List.append_assoc]
  rows := by
    rw [List.foldl_append, ← h'.rows]
    exact Roster.foldl_absorb_told h.rows es'

/-- Nothing is said, and the rows are as they were. -/
theorem silent {d d' : Directory} (events : d'.events = d.events)
    (rows : d'.tables.roster.told = d.tables.roster.told) : Tells [] d d' :=
  ⟨events.trans (List.append_nil _).symm, rows.symm⟩

end Tells

theorem Tables.Repoints.roster {t t' : Tables} (h : t.Repoints t') : t'.roster = t.roster := by
  rw [h]
  rfl

theorem Merchant.told_kept (e : Engine) (m : Merchant) : (e.keptMerchant m).told = m.told := by
  rw [told, told, Engine.keptMerchant, Engine.map_keptFloat, Engine.map_keptFloat]
  rfl

theorem Merchant.told_revised (e : Engine) {m old : Merchant} (owner : m.owner = old.owner)
    (created : m.created = old.created) :
    (withKey m.id (e.revisedMerchant m old)).told = m.told := by
  rw [← told_kept e m]
  cases e with
  | memory => rfl
  | sqlite =>
    rw [Engine.revisedMerchant, ← owner, ← created]
    rfl

theorem Tag.told_kept (e : Engine) (i : Int) (t : Tag) :
    (withKey i (e.keptTag (withKey i t))).told = (withKey i t).told := by
  cases e <;> rfl

theorem Tag.told_revised (e : Engine) {t old : Tag} (owner : t.owner = old.owner)
    (created : t.created = old.created) : (withKey t.id (e.revisedTag t old)).told = t.told := by
  cases e with
  | memory => rfl
  | sqlite =>
    rw [Engine.revisedTag, ← owner, ← created]
    rfl

/-! ## Changes of one row -/

namespace Tables

variable {t t' : Tables} {kind : EventKind} {who : Principal}

/-- An event on a merchant tells the row that is written for it. -/
theorem absorb_merchant {m : Merchant} {row : Option Merchant}
    (merchants : t'.merchants.get? = Function.update t.merchants.get? m.id row)
    (tags : t'.tags = t.tags) (same : (kind.leaves m).map Merchant.told = row.map Merchant.told) :
    (t.roster.absorb ⟨kind, .merchant m, who⟩).told = t'.roster.told := by
  rw [Roster.absorb, roster, roster, merchants, tags, Roster.told, Roster.told]
  dsimp only
  rw [Function.comp_update, Function.comp_update, same]

/-- An event on a tag tells the row that is written for it. -/
theorem absorb_tag {tag : Tag} {row : Option Tag} (merchants : t'.merchants = t.merchants)
    (tags : t'.tags.get? = Function.update t.tags.get? tag.id row)
    (same : (kind.leaves tag).map Tag.told = row.map Tag.told) :
    (t.roster.absorb ⟨kind, .tag tag, who⟩).told = t'.roster.told := by
  rw [Roster.absorb, roster, roster, merchants, tags, Roster.told, Roster.told]
  dsimp only
  rw [Function.comp_update, Function.comp_update, same]

theorem absorb_new {e : Engine} {m seen : Merchant}
    (merchants : t'.merchants = (t.insertMerchant e m).2.merchants) (tags : t'.tags = t.tags)
    (id : seen.id = t.merchants.next) (same : seen.told = (withKey t.merchants.next m).told) :
    (t.roster.absorb ⟨.merchantCreated, .merchant seen, who⟩).told = t'.roster.told := by
  let row := e.keptMerchant (withKey t.merchants.next m.row)
  have rows : t'.merchants.get? =
      Function.update t.merchants.get? seen.id (some (withKey t.merchants.next row)) := by
    rw [id, merchants]
    exact Table.get?_insert_update t.merchants row
  refine absorb_merchant rows tags ?_
  exact congrArg some (same.trans (Merchant.told_kept e (withKey t.merchants.next m.row)).symm)

theorem get?_updateMerchant {e : Engine} {m old : Merchant}
    (stored : t.merchants.get? m.id = some old) :
    (t.updateMerchant e m).merchants.get? =
      Function.update t.merchants.get? m.id (some (withKey m.id (e.revisedMerchant m old))) :=
  Table.get?_modify_update stored (e.revisedMerchant m)

theorem absorb_rewritten {e : Engine} {m old seen : Merchant}
    (merchants : t'.merchants = (t.updateMerchant e m).merchants) (tags : t'.tags = t.tags)
    (stored : t.merchants.get? m.id = some old) (owner : m.owner = old.owner)
    (created : m.created = old.created) (id : seen.id = m.id) (same : seen.told = m.told) :
    (t.roster.absorb ⟨.merchantUpdated, .merchant seen, who⟩).told = t'.roster.told := by
  have rows : t'.merchants.get? =
      Function.update t.merchants.get? seen.id (some (withKey m.id (e.revisedMerchant m old))) := by
    rw [id, merchants]
    exact get?_updateMerchant stored
  refine absorb_merchant rows tags ?_
  exact congrArg some (same.trans (Merchant.told_revised e owner created).symm)

/-- What events do not tell can be written over without a word. -/
theorem told_updateMerchant {e : Engine} {m old : Merchant}
    (stored : t.merchants.get? m.id = some old) (owner : m.owner = old.owner)
    (created : m.created = old.created) (same : m.told = old.told) :
    (t.updateMerchant e m).roster.told = t.roster.told := by
  have old_told : some (withKey m.id (e.revisedMerchant m old)).told =
      (Option.map Merchant.told ∘ t.merchants.get?) m.id := by
    rw [Merchant.told_revised e owner created, same, Function.comp, stored]
    rfl
  rw [roster, roster, get?_updateMerchant stored, Roster.told, Function.comp_update,
    Option.map_some, old_told, Function.update_eq_self]
  rfl

end Tables

/-! ## Calls that announce a change -/

/-- What can come of a call that announces a change of one kind: it is refused and nothing is said,
or it answers, and one event of the caller says what became of the rows and has what is answered. -/
inductive Announced {α : Type} (kind : EventKind) (who : Principal)
    (entity? : α → Option EventPayload) (d : Directory) : Except Failure α × Directory → Prop
  | refused (e : Failure) (d' : Directory) (silent : Tells [] d d') :
    Announced kind who entity? d (.error e, d')
  | announced (a : α) (payload : EventPayload) (d' : Directory)
    (tells : Tells [⟨kind, payload, who⟩] d d') (shown : ∀ p, entity? a = some p → p = payload) :
    Announced kind who entity? d (.ok a, d')

theorem Tells.after {d : Directory} {t : Tables} {kind : EventKind} {payload : EventPayload}
    {who : Principal} (rows : (d.tables.roster.absorb ⟨kind, payload, who⟩).told = t.roster.told) :
    Tells [⟨kind, payload, who⟩] d (d.after t kind payload who) :=
  ⟨rfl, rows⟩

/-- The entity that is answered is the one that is announced. -/
theorem shown (payload : EventPayload) : ∀ p, some payload = some p → p = payload :=
  fun _ same => (Option.some.inj same).symm

namespace Announced

variable {α β : Type} {kind : EventKind} {who : Principal} {d : Directory}

theorem guarded {entity? : β → Option EventPayload} {decision : Directory → Except Failure α}
    {effect : α → Directory → β × Directory}
    (h : ∀ a, decision d = .ok a → ∃ payload, Tells [⟨kind, payload, who⟩] d (effect a d).2 ∧
      ∀ p, entity? (effect a d).1 = some p → p = payload) :
    Announced kind who entity? d (Action.guarded decision effect d) := by
  obtain ⟨e, _, refused⟩ | ⟨a, ok, done⟩ := Action.guarded_cases decision effect d
  · rw [refused]
    exact .refused e d (.refl d)
  · obtain ⟨payload, tells, shown⟩ := h a ok
    rw [done]
    exact .announced _ payload _ tells shown

theorem map {entity? : α → Option EventPayload} {entity'? : β → Option EventPayload} {x : Action α}
    (h : Announced kind who entity? d (x d)) (f : α → β) (same : ∀ a, entity'? (f a) = entity? a) :
    Announced kind who entity'? d ((f <$> x) d) := by
  rw [Action.map_apply]
  cases hr : x d with
  | mk r d' =>
    rw [hr] at h
    cases h with
    | refused e _ silent => exact .refused e d' silent
    | announced a payload _ tells shown =>
      exact .announced (f a) payload d' tells fun p hp => shown p ((same a).symm.trans hp)

end Announced

namespace Merchants

variable (who : Principal) (d : Directory)

theorem create_announced (draft : MerchantDraft) :
    Announced .merchantCreated who (some ∘ .merchant) d (create who draft d) := by
  rw [create_eq]
  refine .guarded ?_
  intro _ _
  have columns : (d.tables.enroll d.engine d.now who draft).2 = _ :=
    Tables.enroll_columns d.now draft
  refine ⟨_, .after ?_, shown _⟩
  rw [columns]
  exact Tables.absorb_new rfl rfl rfl rfl

theorem update_announced (id : Int) (u : MerchantUpdate) :
    Announced .merchantUpdated who (some ∘ .merchant) d (update who id u d) := by
  rw [update_eq]
  refine .guarded ?_
  intro m ok
  obtain ⟨owned, _, _⟩ := admitUpdate_eq_ok.1 ok
  have stored := (ownedIn_eq_ok owned).1
  obtain rfl := id_of_ownedIn owned
  refine ⟨_, .after ?_, shown _⟩
  rw [Tables.rewrite_columns]
  exact Tables.absorb_rewritten rfl rfl stored rfl rfl rfl rfl

theorem delete_announced (id : Int) :
    Announced .merchantDeleted who (fun _ => none) d (delete who id d) := by
  rw [delete_eq]
  refine .guarded ?_
  intro m owned
  obtain rfl := id_of_ownedIn owned
  refine ⟨_, .after (Tables.absorb_merchant ?_ rfl rfl), fun _ h => nomatch h⟩
  exact Table.get?_erase_update d.tables.merchants m.id

end Merchants

namespace Tags

variable (who : Principal) (d : Directory)

theorem create_announced (draft : TagDraft) :
    Announced .tagCreated who (some ∘ .tag) d (create who draft d) := by
  rw [create_eq]
  refine .guarded ?_
  intro _ _
  refine ⟨_, .after (Tables.absorb_tag rfl (Table.get?_insert_update d.tables.tags _) ?_),
    shown _⟩
  exact congrArg some (Tag.told_kept d.engine _ (draft.toTag d.now who.id)).symm

theorem update_announced (id : Int) (draft : TagDraft) :
    Announced .tagUpdated who (some ∘ .tag) d (update who id draft d) := by
  rw [update_eq]
  refine .guarded ?_
  intro tag ok
  obtain ⟨_, owned⟩ := admitUpdate_eq_ok.1 ok
  obtain ⟨old, stored, own, rfl⟩ := ownedIn_eq_ok owned
  obtain rfl := Table.key_of_get? stored
  let new := (old.asSeenBy who).revise d.now draft
  have revised : (withKey new.id (d.engine.revisedTag new old)).told = new.told :=
    Tag.told_revised d.engine rfl rfl
  refine ⟨_, .after (Tables.absorb_tag rfl (Table.get?_modify_update stored _) ?_), shown _⟩
  exact congrArg some revised.symm

theorem delete_announced (id : Int) :
    Announced .tagDeleted who (fun _ => none) d (delete who id d) := by
  rw [delete_eq]
  refine .guarded ?_
  intro tag owned
  obtain ⟨old, stored, _, rfl⟩ := ownedIn_eq_ok owned
  obtain rfl := Table.key_of_get? stored
  refine ⟨_, .after (Tables.absorb_tag rfl ?_ rfl), fun _ h => nomatch h⟩
  exact Table.get?_erase_update d.tables.tags _

end Tags

namespace Points

variable (who : Principal) (d : Directory)

theorem create_announced (draft : GeoPointDraft) :
    Announced .pointCreated who (some ∘ .point) d (create who draft d) := by
  rw [create_eq]
  refine .guarded ?_
  intro _ _
  exact ⟨_, .after rfl, shown _⟩

theorem update_announced (id : Int) (draft : GeoPointDraft) :
    Announced .pointUpdated who (some ∘ .point) d (update who id draft d) := by
  rw [update_eq]
  refine .guarded ?_
  intro _ _
  exact ⟨_, .after rfl, shown _⟩

theorem delete_announced (id : Int) :
    Announced .pointDeleted who (fun _ => none) d (delete who id d) := by
  rw [delete_eq]
  refine .guarded ?_
  intro _ _
  exact ⟨_, .after rfl, fun _ h => nomatch h⟩

end Points

/-! ## Calls on addresses -/

namespace Geocoding

variable {d : Directory}

theorem Saved.events {address source : String} {metadata : Json.Object}
    {r : Except Failure GeoPoint × Directory} (h : Saved address source metadata d r) :
    r.2.events = d.events := by
  cases h <;> rfl

theorem Saved.silent {address source : String} {metadata : Json.Object}
    {r : Except Failure GeoPoint × Directory} (h : Saved address source metadata d r) :
    Tells [] d r.2 :=
  .silent h.events (congrArg Roster.told h.repoints.roster)

theorem Linked.events {job : Job} {r : Except Failure GeoPoint × Directory} (h : Linked job d r) :
    r.2.events = d.events := by
  cases h with
  | loose p d' _ saved => exact saved.events
  | adopted m p d' _ saved _ => exact saved.events
  | _ => rfl

theorem Linked.silent {job : Job} {r : Except Failure GeoPoint × Directory} (h : Linked job d r) :
    Tells [] d r.2 :=
  .silent h.events (congrArg Roster.told h.repoints.roster)

end Geocoding

theorem GeocodingCommand.perform_silent (c : GeocodingCommand) (d : Directory) :
    Tells [] d (c.perform d).2 := by
  cases c <;> rw [perform, map_snd]
  case resolve chain address =>
    obtain ⟨r, ls, h⟩ := Geocoding.resolve_asks chain address d
    rw [h]
    exact .silent rfl rfl
  case save chain address source metadata =>
    exact (Geocoding.save_saved chain address source metadata d).silent
  case link chain job => exact (Geocoding.link_linked chain job d).silent
  case batch chain source addresses =>
    refine Geocoding.batch_keeps (P := Tells [] d) ?_ addresses (.refl d)
    intro address d' before
    exact before.trans (Geocoding.save_saved chain address source none d').silent
  case nearby longitude latitude radius limit =>
    obtain ⟨r, h⟩ := Geocoding.nearby_looks longitude latitude radius limit d
    rw [h]
    exact .refl d

/-- A failed attempt is not announced, and what it writes events do not tell. -/
theorem Merchants.geocode_announced (chain : Option (List Provider)) (who : Principal) (id : Int)
    (d : Directory) :
    Announced .merchantUpdated who (some ∘ .merchant) d (geocode chain who id d) := by
  have done := geocode_geocoded chain who id d
  generalize geocode chain who id d = r at done
  cases done with
  | refused e => exact .refused e d (.refl d)
  | crashed m x d' _ linked => exact .refused _ d' linked.silent
  | placed m p origin d' owned linked =>
    have stored := (ownedIn_eq_ok owned).1
    obtain rfl := id_of_ownedIn owned
    rw [← linked.merchants] at stored
    let placed := placedAt (tried m) p origin
    let tables := d'.tables.updateMerchant d'.engine placed
    have rows : (d'.tables.roster.absorb
        ⟨.merchantUpdated, .merchant (tables.detailed who placed), who⟩).told =
          tables.roster.told :=
      Tables.absorb_rewritten rfl rfl stored rfl rfl rfl rfl
    exact .announced _ _ _ (linked.silent.trans (.after rows)) (shown _)
  | unplaced m e x d' owned linked =>
    have stored := (ownedIn_eq_ok owned).1
    obtain rfl := id_of_ownedIn owned
    rw [← linked.merchants] at stored
    have rows : (d'.tables.updateMerchant d'.engine (unresolved (tried m) e)).roster.told =
        d'.tables.roster.told := Tables.told_updateMerchant stored rfl rfl rfl
    exact .refused e _ (linked.silent.trans (.silent rfl rows))

/-! ## Imports -/

namespace Import

variable {i : Importer} {who : Principal} {geocoding : Bool} {columns : List Placed}

theorem importRow_tells {r : Row} {d d' : Directory} {o : Outcome}
    (done : importRow i who geocoding r d = (.ok o, d')) :
    Tells (o.item?.toList.map (arrival who)) d d' := by
  cases wrong : objections i r with
  | nil =>
    rw [importRow_of_clean wrong] at done
    cases done
    refine ⟨rfl, ?_⟩
    exact Tables.absorb_new rfl rfl rfl rfl
  | cons p ps =>
    rw [importRow_of_objections (by rw [wrong]; exact List.cons_ne_nil p ps)] at done
    cases done
    exact .refl d

theorem importRows_tells {records : List (List String)} {d d' : Directory} {os : List Outcome}
    (done : importRows i who geocoding columns records d = (.ok os, d')) :
    Tells ((os.filterMap Outcome.item?).map (arrival who)) d d' := by
  induction records generalizing d os with
  | nil =>
    cases done
    exact .refl _
  | cons record rest ih =>
    obtain ⟨o, d₁, os', first, others, rfl⟩ := importRows_cons_cases done
    rw [items_cons, List.map_append]
    exact (importRow_tells first).trans (ih others)

end Import

/-! ## Commands -/

/-- The entity that a call answers. -/
def Reply.entity? : Reply → Option EventPayload
  | .merchant m => some (.merchant m)
  | .tag t => some (.tag t)
  | .point p => some (.point p)
  | _ => none

/-- The merchants that a call reports as imported. -/
def Reply.imported : Reply → List Merchant
  | .report r => r.items
  | _ => []

/-- The change that a call announces. An import is not among these, as it announces many. -/
def Command.announces : Command → Option EventKind
  | .merchants (.create _) => some .merchantCreated
  | .merchants (.update _ _) => some .merchantUpdated
  | .merchants (.delete _) => some .merchantDeleted
  | .merchants (.geocode _ _) => some .merchantUpdated
  | .tags (.create _) => some .tagCreated
  | .tags (.update _ _) => some .tagUpdated
  | .tags (.delete _) => some .tagDeleted
  | .points (.create _) => some .pointCreated
  | .points (.update _ _) => some .pointUpdated
  | .points (.delete _) => some .pointDeleted
  | _ => none

/-- What a command of a caller publishes: the change that it makes, once and with the entity that is
answered; the merchants that were imported, one after another; and otherwise nothing. -/
def Command.Publishes (c : Command) (who : Principal) (reply : Except Failure Reply)
    (es : List Event) : Prop :=
  match reply with
  | .error _ => es = []
  | .ok answer =>
    match c.announces with
    | some kind =>
      ∃ payload, es = [⟨kind, payload, who⟩] ∧ ∀ p, answer.entity? = some p → p = payload
    | none => es = answer.imported.map (Import.arrival who)

/-- The events of a command are those that it has to publish, and they tell what became of it. -/
def Command.Reports (c : Command) (who : Principal) (d : Directory)
    (r : Except Failure Reply × Directory) : Prop :=
  ∃ es, Tells es d r.2 ∧ c.Publishes who r.1 es

namespace Command

variable {c : Command} {who : Principal} {d : Directory} {α : Type} {x : Action α}

theorem reports_of_announced {kind : EventKind} {entity? : α → Option EventPayload}
    (h : Announced kind who entity? d (x d)) (announces : c.announces = some kind) (f : α → Reply)
    (same : ∀ a, (f a).entity? = entity? a) : c.Reports who d ((f <$> x) d) := by
  have answered : Announced kind who Reply.entity? d ((f <$> x) d) := h.map f same
  generalize (f <$> x) d = r at answered
  cases answered with
  | refused e _ silent => exact ⟨[], silent, rfl⟩
  | announced a payload _ tells shown =>
    refine ⟨_, tells, ?_⟩
    show match c.announces with | some kind => _ | none => _
    rw [announces]
    exact ⟨payload, rfl, shown⟩

theorem reports_of_silent (silent : Tells [] d (x d).2) (announces : c.announces = none)
    (f : α → Reply) (none_imported : ∀ a, (f a).imported = []) :
    c.Reports who d ((f <$> x) d) := by
  rw [Action.map_apply]
  refine ⟨[], silent, ?_⟩
  cases (x d).1 with
  | error e => rfl
  | ok a =>
    show match c.announces with | some kind => _ | none => _
    rw [announces, none_imported]
    rfl

end Command

theorem MerchantCommand.reports (who : Principal) (c : MerchantCommand) (d : Directory) :
    (Command.merchants c).Reports who d (c.perform who d) := by
  cases c with
  | create draft =>
    exact Command.reports_of_announced (Merchants.create_announced who d draft) rfl _ fun _ => rfl
  | find id =>
    have silent : Tells [] d (Merchants.find who id d).2 := by
      rw [Merchants.find_eq]
      exact Action.guarded_keeps (.refl d) fun _ _ => .refl d
    exact Command.reports_of_silent silent rfl _ fun _ => rfl
  | list search paging => exact Command.reports_of_silent (.refl d) rfl _ fun _ => rfl
  | update id u =>
    exact Command.reports_of_announced (Merchants.update_announced who d id u) rfl _ fun _ => rfl
  | delete id =>
    exact Command.reports_of_announced (Merchants.delete_announced who d id) rfl _ fun _ => rfl
  | geocode chain id =>
    exact Command.reports_of_announced (Merchants.geocode_announced chain who id d) rfl _
      fun _ => rfl

theorem TagCommand.reports (who : Principal) (c : TagCommand) (d : Directory) :
    (Command.tags c).Reports who d (c.perform who d) := by
  cases c with
  | create draft =>
    exact Command.reports_of_announced (Tags.create_announced who d draft) rfl _ fun _ => rfl
  | find id => exact Command.reports_of_silent (.refl d) rfl _ fun _ => rfl
  | list search category paging => exact Command.reports_of_silent (.refl d) rfl _ fun _ => rfl
  | update id draft =>
    exact Command.reports_of_announced (Tags.update_announced who d id draft) rfl _ fun _ => rfl
  | delete id =>
    exact Command.reports_of_announced (Tags.delete_announced who d id) rfl _ fun _ => rfl

theorem PointCommand.reports (who : Principal) (c : PointCommand) (d : Directory) :
    (Command.points c).Reports who d (c.perform who d) := by
  cases c with
  | create draft =>
    exact Command.reports_of_announced (Points.create_announced who d draft) rfl _ fun _ => rfl
  | find id => exact Command.reports_of_silent (.refl d) rfl _ fun _ => rfl
  | list merchant search paging => exact Command.reports_of_silent (.refl d) rfl _ fun _ => rfl
  | update id draft =>
    exact Command.reports_of_announced (Points.update_announced who d id draft) rfl _ fun _ => rfl
  | delete id =>
    exact Command.reports_of_announced (Points.delete_announced who d id) rfl _ fun _ => rfl

theorem GeocodingCommand.reports (who : Principal) (c : GeocodingCommand) (d : Directory) :
    (Command.geocoding c).Reports who d (c.perform d) := by
  have silent := c.perform_silent d
  cases c <;> rw [perform] at silent ⊢ <;> rw [map_snd] at silent <;>
    exact Command.reports_of_silent silent rfl _ fun _ => rfl

theorem ImportCommand.reports (who : Principal) (c : ImportCommand) (d : Directory) :
    (Command.importFile c).Reports who d ((Command.importFile c).issue who d) := by
  show (Command.importFile c).Reports who d ((.report <$> _ : Action Reply) d)
  rw [Action.map_apply]
  obtain ⟨e, refused⟩ | ⟨columns, records, os, d', rows, done⟩ :=
    Import.importBytes_cases c.importer who c.autoGeocode c.bytes d
  · rw [refused]
    exact ⟨[], .refl d, rfl⟩
  · rw [done]
    exact ⟨_, Import.importRows_tells rows, rfl⟩

theorem Turn.reports (t : Turn) (d : Directory) : t.command.Reports t.who d (t.issue d) := by
  have issued : t.command.Reports t.who { d with now := t.moment } (t.issue d) := by
    rw [issue]
    cases t.command with
    | merchants c => exact c.reports t.who _
    | tags c => exact c.reports t.who _
    | points c => exact c.reports t.who _
    | geocoding c => exact c.reports t.who _
    | importFile c => exact c.reports t.who _
  obtain ⟨es, tells, publishes⟩ := issued
  exact ⟨es, ⟨tells.events, tells.rows⟩, publishes⟩

/-! ## Runs -/

theorem Step.take_tells (s : Step) (d : Directory) : ∃ es, Tells es d (s.take d) := by
  cases s with
  | call t =>
    obtain ⟨es, tells, _⟩ := t.reports d
    exact ⟨es, tells⟩
  | execute moment chain index =>
    refine ⟨[], Step.execute_keeps (P := Tells [] d) (.refl d) ?_⟩
    intro job _
    have linked := (Geocoding.link_linked chain job
      { d with now := moment, queue := d.queue.eraseIdx index }).silent
    exact ⟨linked.events, linked.rows⟩

/-- What events tell of a directory that they lead to from an empty one. -/
theorem Tells.replay {es : List Event} {engine : Engine} {moment : Timestamp} {d : Directory}
    (h : Tells es (.empty engine moment) d) :
    (Roster.replay d.events).told = d.tables.roster.told := by
  have events : d.events = es := h.events
  rw [events]
  exact h.rows

/-- Whatever calls are made and whenever the jobs of imports are executed, who follows the events
has the tags and the merchants as they are stored. A call that answers publishes the change that it
makes, or the merchants that it imports, and nothing else is published by anyone. -/
theorem events_replay (engine : Engine) (moment : Timestamp) (steps : List Step) :
    let final := advance steps (.empty engine moment)
    (Roster.replay final.events).told = final.tables.roster.told ∧
    (∀ (t : Turn) (d : Directory), ∃ es, (t.issue d).2.events = d.events ++ es ∧
      t.command.Publishes t.who (t.issue d).1 es) ∧
    ∀ moment chain index (d : Directory),
      ((Step.execute moment chain index).take d).events = d.events := by
  refine ⟨?_, ?_, ?_⟩
  · let start := Directory.empty engine moment
    have told : ∃ es, Tells es start (advance steps start) := by
      refine advance_keeps (P := fun d => ∃ es, Tells es start d) ?_ ⟨[], .refl start⟩
      rintro s _ d ⟨es, before⟩
      obtain ⟨es', step⟩ := s.take_tells d
      exact ⟨es ++ es', before.trans step⟩
    obtain ⟨es, tells⟩ := told
    exact tells.replay
  · intro t d
    obtain ⟨es, tells, publishes⟩ := t.reports d
    exact ⟨es, tells.events, publishes⟩
  · intro moment chain index d
    exact Step.execute_keeps (P := fun d' => d'.events = d.events) rfl
      fun job _ => (Geocoding.link_linked chain job _).events

end Gazetteer
