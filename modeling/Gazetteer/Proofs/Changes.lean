import Gazetteer.Proofs.Replay

/-!
# What steps change

Whatever is called and whichever job is executed, the tables and the events change in a few ways
only. An import makes several changes, every other step makes two at most: a point is written on the
way to the place of a merchant. So a property of tables and events needs to be looked at once for
each way.

* `Change`: the ways in which tables and events change.
* `Changes`: changes one after another.
* `Step.take_changes`: what a step makes of a directory comes by changes.
* `Attainable.changes_keep`: what every change keeps.
-/

set_option autoImplicit false

namespace Gazetteer

/-- The ways in which tables and events change. -/
inductive Change (d : Directory) : Directory → Prop
  /-- Points at most are different, and nothing is announced. -/
  | silent (d' : Directory) (engine : d'.engine = d.engine) (events : d'.events = d.events)
    (repoints : d.tables.Repoints d'.tables) : Change d d'
  | pointed (who : Principal) (kind : EventKind) (p : GeoPoint) (t : Tables)
    (repoints : d.tables.Repoints t) : Change d (d.after t kind (.point p) who)
  | enrolled (who : Principal) (draft : MerchantDraft) (seen : Merchant) :
    Change d (d.after (d.tables.enroll d.engine d.now who draft).2 .merchantCreated
      (.merchant seen) who)
  | rewritten (who : Principal) (id : Int) (u : MerchantUpdate) (m seen : Merchant) :
    Change d (d.after (d.tables.rewrite d.engine d.now who id u m) .merchantUpdated
      (.merchant seen) who)
  | expelled (who : Principal) (id : Int) (m : Merchant) :
    Change d (d.after (d.tables.expel id) .merchantDeleted (.merchant m) who)
  /-- A failed attempt at geocoding is written down. -/
  | attempted (m : Merchant) : Change d { d with tables := d.tables.updateMerchant d.engine m }
  | tagAdded (who : Principal) (draft : TagDraft) (seen : Tag) :
    Change d (d.after (d.tables.insertTag d.engine (draft.toTag d.now who.id)).2 .tagCreated
      (.tag seen) who)
  | tagRevised (who : Principal) (draft : TagDraft) (old : Tag)
    (stored : d.tables.tags.get? old.id = some old) (own : old.owner = who.id) :
    Change d (d.after (d.tables.updateTag d.engine ((old.asSeenBy who).revise d.now draft))
      .tagUpdated (.tag ((old.asSeenBy who).revise d.now draft)) who)
  | tagRemoved (who : Principal) (id : Int) (tag : Tag) :
    Change d (d.after ((d.tables.deleteRelationsOfTag id).deleteTag id) .tagDeleted (.tag tag) who)

/-- Changes one after another. -/
def Changes : Directory → Directory → Prop := Relation.ReflTransGen Change

theorem Change.changes {d d' : Directory} (h : Change d d') : Changes d d' := .single h

/-- What each change keeps, changes one after another keep. -/
theorem Changes.keeps {P : Directory → Prop} (change : ∀ d d', Change d d' → P d → P d')
    {d d' : Directory} (h : Changes d d') (start : P d) : P d' := by
  induction h with
  | refl => exact start
  | tail _ c ih => exact change _ _ c ih

/-! ## Calls -/

/-- A call that decides first changes something only if it was decided well. -/
theorem Changes.guarded {α β : Type} {decision : Directory → Except Failure α}
    {effect : α → Directory → β × Directory} {d : Directory}
    (h : ∀ a, decision d = .ok a → Change d (effect a d).2) :
    Changes d (Action.guarded decision effect d).2 :=
  Action.guarded_keeps (P := Changes d) .refl fun a ok => (h a ok).changes

namespace Merchants

variable (who : Principal) (d : Directory)

theorem create_changes (draft : MerchantDraft) : Changes d (create who draft d).2 := by
  rw [create_eq]
  exact .guarded fun _ _ => .enrolled who draft _

theorem update_changes (id : Int) (u : MerchantUpdate) : Changes d (update who id u d).2 := by
  rw [update_eq]
  exact .guarded fun m _ => .rewritten who id u (m.apply d.now u.fields) _

theorem delete_changes (id : Int) : Changes d (delete who id d).2 := by
  rw [delete_eq]
  exact .guarded fun m _ => .expelled who id m

end Merchants

namespace Geocoding

variable {d : Directory} {r : Except Failure GeoPoint × Directory}

theorem Saved.change {address source : String} {metadata : Json.Object}
    (h : Saved address source metadata d r) : Change d r.2 :=
  .silent r.2 h.engine h.events h.repoints

theorem Linked.change {job : Job} (h : Linked job d r) : Change d r.2 :=
  .silent r.2 h.engine h.events h.repoints

end Geocoding

/-- The place of a merchant is written as an update would write it. -/
theorem Merchants.geocode_changes (who : Principal) (d : Directory)
    (chain : Option (List Provider)) (id : Int) : Changes d (geocode chain who id d).2 := by
  have done := geocode_geocoded chain who id d
  generalize geocode chain who id d = r at done
  cases done with
  | refused e => exact .refl
  | placed m p origin d' owned linked =>
    let only : MerchantUpdate := ⟨.blank, none, none, none⟩
    exact linked.change.changes.tail (.rewritten who id only (placedAt (tried m) p origin) _)
  | unplaced m e x d' owned linked => exact linked.change.changes.tail (.attempted _)
  | crashed m x d' owned linked => exact linked.change.changes

theorem MerchantCommand.perform_changes (who : Principal) (c : MerchantCommand) (d : Directory) :
    Changes d (c.perform who d).2 := by
  cases c <;> rw [perform, map_snd]
  case create draft => exact Merchants.create_changes who d draft
  case find id =>
    rw [Merchants.find_eq]
    exact Action.guarded_keeps (P := Changes d) .refl fun _ _ => .refl
  case list search paging => exact .refl
  case update id u => exact Merchants.update_changes who d id u
  case delete id => exact Merchants.delete_changes who d id
  case geocode chain id => exact Merchants.geocode_changes who d chain id

theorem TagCommand.perform_changes (who : Principal) (c : TagCommand) (d : Directory) :
    Changes d (c.perform who d).2 := by
  cases c <;> rw [perform, map_snd]
  case create draft =>
    rw [Tags.create_eq]
    exact .guarded fun _ _ => .tagAdded who draft _
  case find id => exact .refl
  case list search category paging => exact .refl
  case update id draft =>
    rw [Tags.update_eq]
    refine .guarded ?_
    intro tag admitted
    obtain ⟨_, owned⟩ := Tags.admitUpdate_eq_ok.1 admitted
    obtain ⟨old, stored, own, rfl⟩ := Tags.ownedIn_eq_ok owned
    obtain rfl := Table.key_of_get? stored
    exact .tagRevised who draft old stored own
  case delete id =>
    rw [Tags.delete_eq]
    exact .guarded fun tag _ => .tagRemoved who id tag

theorem PointCommand.perform_changes (who : Principal) (c : PointCommand) (d : Directory) :
    Changes d (c.perform who d).2 := by
  cases c <;> rw [perform, map_snd]
  case create draft =>
    rw [Points.create_eq]
    exact .guarded fun _ _ => .pointed who _ _ _ rfl
  case find id => exact .refl
  case list merchant search paging => exact .refl
  case update id draft =>
    rw [Points.update_eq]
    exact .guarded fun _ _ => .pointed who _ _ _ rfl
  case delete id =>
    rw [Points.delete_eq]
    exact .guarded fun _ _ => .pointed who _ _ _ rfl

theorem GeocodingCommand.perform_changes (c : GeocodingCommand) (d : Directory) :
    Changes d (c.perform d).2 := by
  cases c <;> rw [perform, map_snd]
  case resolve chain address =>
    obtain ⟨r, ls, asked⟩ := Geocoding.resolve_asks chain address d
    rw [asked]
    exact .single (.silent _ rfl rfl rfl)
  case save chain address source metadata =>
    exact (Geocoding.save_saved chain address source metadata d).change.changes
  case link chain job => exact (Geocoding.link_linked chain job d).change.changes
  case batch chain source addresses =>
    refine Geocoding.batch_keeps (P := Changes d) ?_ addresses .refl
    intro address d' before
    exact before.tail (Geocoding.save_saved chain address source none d').change
  case nearby longitude latitude radius limit =>
    obtain ⟨r, looked⟩ := Geocoding.nearby_looks longitude latitude radius limit d
    rw [looked]
    exact .refl

theorem Import.importBytes_changes (i : Importer) (who : Principal) (auto : Bool)
    (bytes : List UInt8) (d : Directory) : Changes d (importBytes i who auto bytes d).2 := by
  refine importBytes_keeps (P := Changes d) ?_ bytes .refl
  intro r d' before
  have done := importRow_done i who (auto && i.background) r d'
  generalize importRow i who (auto && i.background) r d' = after at done
  cases done with
  | rejected ps _ => exact before
  | imported tags m d'' _ _ created =>
    have made := Merchants.create_changes who d' (r.draft tags)
    rw [created] at made
    exact (before.trans made).tail (.silent _ rfl rfl rfl)

/-! ## Steps -/

theorem Turn.issue_changes (t : Turn) (d : Directory) : Changes d (t.issue d).2 := by
  have ready : Change d { d with now := t.moment } := .silent _ rfl rfl rfl
  refine .head ready ?_
  rw [issue]
  cases t.command with
  | merchants c => exact c.perform_changes t.who _
  | tags c => exact c.perform_changes t.who _
  | points c => exact c.perform_changes t.who _
  | geocoding c => exact c.perform_changes _
  | importFile c =>
    rw [Command.issue, map_snd]
    exact Import.importBytes_changes _ _ _ c.bytes _

theorem Step.take_changes (s : Step) (d : Directory) : Changes d (s.take d) := by
  cases s with
  | call t => exact t.issue_changes d
  | execute moment chain index =>
    refine Step.execute_keeps (P := Changes d) .refl ?_
    intro job _
    have ready : Change d { d with now := moment, queue := d.queue.eraseIdx index } :=
      .silent _ rfl rfl rfl
    exact .head ready (Geocoding.link_linked chain job _).change.changes

theorem Change.engine {d d' : Directory} (h : Change d d') : d'.engine = d.engine := by
  cases h with
  | silent _ engine _ _ => exact engine
  | _ => rfl

/-- Tables stay where they are kept. -/
theorem advance_engine (steps : List Step) (d : Directory) :
    (advance steps d).engine = d.engine := by
  refine advance_keeps (P := fun d' => d'.engine = d.engine) ?_ rfl
  intro s _ d' before
  exact (s.take_changes d').keeps (P := fun d'' => d''.engine = d.engine)
    (fun _ _ c same => c.engine.trans same) before

/-- What holds of an empty directory and is kept by every change holds whatever was done. -/
theorem Attainable.changes_keep {P : Directory → Prop} {d : Directory} (reached : Attainable d)
    (start : ∀ engine moment, P (.empty engine moment))
    (change : ∀ d d', Change d d' → P d → P d') : P d :=
  reached.induction start fun s d before => (s.take_changes d).keeps change before

end Gazetteer
