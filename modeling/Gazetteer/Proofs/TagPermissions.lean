import Gazetteer.Proofs.Attempts
import Gazetteer.Proofs.Changes
import Gazetteer.Proofs.EngineAgreement

/-!
# What is put in for a reader stays out of the rows

A merchant is stored without what is put in when it is read. So is a tag in the database. In memory
an update stores a tag together with the permission of its owner, and from then on every reader of a
merchant sees that permission on the tag.

* `Directory.tagRevised`: the tag was written over at some time.
* `Directory.TagsMarked`: which permission is stored on which tag.
* `Step.take_view`: a step does the same to directories that look the same.
* `tagged_eq`: the tags of some merchants under both engines.
* `stored_permissions`: what is stored and what is seen after the same steps under both engines.
* `revised_tag_keeps_permission`: the permission of an owner in the rows.
-/

set_option autoImplicit false

namespace Gazetteer

/-! ## Tags that were written over -/

theorem Tag.permission_asSeenBy {tag : Tag} {who : Principal} (own : tag.owner = who.id) :
    (tag.asSeenBy who).permission = .admin := by
  show Permission.held (decide (tag.owner = who.id)) = .admin
  rw [decide_eq_true own]
  rfl

/-- The event announces that the tag was written over. -/
def Event.revisesTag (i : Int) (e : Event) : Bool :=
  match e.kind, e.payload with
  | .tagUpdated, .tag tag => tag.id = i
  | _, _ => false

namespace Directory

/-- The tag was written over at some time. -/
def tagRevised (i : Int) (d : Directory) : Bool := d.events.any (Event.revisesTag i)

/-- The permission that is stored on a tag. -/
def markOf (i : Int) (d : Directory) : Permission :=
  if d.engine = .memory ∧ d.tagRevised i = true then .admin else .read

theorem tagRevised_after (i : Int) (d : Directory) (t : Tables) (kind : EventKind)
    (payload : EventPayload) (who : Principal) :
    (d.after t kind payload who).tagRevised i =
      (d.tagRevised i || Event.revisesTag i ⟨kind, payload, who⟩) := by
  rw [tagRevised, after, List.any_append, List.any_cons, List.any_nil, Bool.or_false, tagRevised]

/-- An event of another kind says nothing about any tag. -/
theorem tagRevised_other {d : Directory} {t : Tables} {kind : EventKind} {payload : EventPayload}
    {who : Principal} (other : ∀ i, Event.revisesTag i ⟨kind, payload, who⟩ = false) (i : Int) :
    (d.after t kind payload who).tagRevised i = d.tagRevised i := by
  rw [tagRevised_after, other, Bool.or_false]

/-- Tags have the permission that their history says, and those that have one were given an id. -/
structure TagsMarked (d : Directory) : Prop where
  marks : ∀ tag ∈ d.tables.tags.rows, tag.permission = d.markOf tag.id
  given : ∀ i, d.tagRevised i = true → i ≤ d.tables.tags.last

namespace TagsMarked

variable {d d' : Directory}

theorem empty (engine : Engine) (moment : Timestamp) : (empty engine moment).TagsMarked :=
  ⟨(fun _ h => nomatch h), (fun _ h => nomatch h)⟩

/-- A change that announces no tag as written over, and that may add one but changes none. -/
theorem unrevised (h : d.TagsMarked) (engine : d'.engine = d.engine)
    (same : ∀ i, d'.tagRevised i = d.tagRevised i)
    (rows : ∀ tag ∈ d'.tables.tags.rows, tag ∈ d.tables.tags.rows ∨
      tag.id = d.tables.tags.next ∧ tag.permission = .read)
    (last : d.tables.tags.last ≤ d'.tables.tags.last) : d'.TagsMarked where
  marks := by
    intro tag there
    rw [markOf, engine, same]
    obtain stored | ⟨new, read⟩ := rows tag there
    · exact h.marks tag stored
    · -- the id is new, so nothing was announced about it
      have fresh : d.tagRevised d.tables.tags.next = false := by
        rw [Bool.eq_false_iff]
        intro revised
        have bound := h.given _ revised
        rw [Table.next] at bound
        omega
      rw [new, fresh, if_neg (fun marked => nomatch marked.2)]
      exact read
  given := by
    intro i revised
    rw [same] at revised
    exact (h.given i revised).trans last

/-- A change that leaves the tags alone and does not announce that one was written over. -/
theorem of_same (h : d.TagsMarked) (engine : d'.engine = d.engine)
    (tags : d'.tables.tags = d.tables.tags) (same : ∀ i, d'.tagRevised i = d.tagRevised i) :
    d'.TagsMarked := by
  refine h.unrevised engine same ?_ ?_
  · rw [tags]
    exact fun _ stored => .inl stored
  · rw [tags]

/-- An event of another kind, with any tables that have the same tags. -/
theorem after_same (h : d.TagsMarked) {t : Tables} {kind : EventKind} {payload : EventPayload}
    {who : Principal} (tags : t.tags = d.tables.tags)
    (other : ∀ i, Event.revisesTag i ⟨kind, payload, who⟩ = false) :
    (d.after t kind payload who).TagsMarked :=
  h.of_same rfl tags (tagRevised_other other)

theorem tagAdded (h : d.TagsMarked) (who : Principal) (draft : TagDraft) (seen : Tag) :
    (d.after (d.tables.insertTag d.engine (draft.toTag d.now who.id)).2 .tagCreated (.tag seen)
      who).TagsMarked := by
  refine h.unrevised rfl (tagRevised_other fun _ => rfl) ?_ ?_
  · refine Table.forall_insert (fun _ stored => .inl stored) (.inr ⟨rfl, ?_⟩)
    cases d.engine <;> rfl
  · exact Int.le_of_lt (Int.lt_succ _)

theorem tagRevised (h : d.TagsMarked) {who : Principal} (draft : TagDraft) {old : Tag}
    (stored : d.tables.tags.get? old.id = some old) (own : old.owner = who.id) :
    (d.after (d.tables.updateTag d.engine ((old.asSeenBy who).revise d.now draft)) .tagUpdated
      (.tag ((old.asSeenBy who).revise d.now draft)) who).TagsMarked := by
  let new := (old.asSeenBy who).revise d.now draft
  let d' := d.after (d.tables.updateTag d.engine new) .tagUpdated (.tag new) who
  have history : ∀ i, d'.tagRevised i = (d.tagRevised i || decide (old.id = i)) :=
    fun i => tagRevised_after ..
  refine ⟨?_, ?_⟩
  · intro tag there
    obtain ⟨before, stored', rfl⟩ := List.mem_map.1 there
    rw [Table.changed]
    split
    · next same =>
      have held : new.permission = .admin := Tag.permission_asSeenBy own
      show (d.engine.revisedTag new before).permission = d'.markOf old.id
      have revised : d'.tagRevised old.id = true := by
        rw [history, decide_eq_true rfl, Bool.or_true]
      rw [markOf, revised]
      show _ = if d.engine = .memory ∧ true = true then Permission.admin else .read
      cases d.engine with
      | memory => exact held
      | sqlite => rfl
    · next other =>
      have kept : d'.tagRevised before.id = d.tagRevised before.id := by
        rw [history, decide_eq_false fun same => other same.symm, Bool.or_false]
      show before.permission = d'.markOf before.id
      rw [h.marks before stored', markOf, markOf, kept]
      rfl
  · intro i revised
    rw [history, Bool.or_eq_true, decide_eq_true_eq] at revised
    obtain before | rfl := revised
    · exact h.given i before
    · exact d.tables.tags.bounded old (Table.mem_of_get? stored)

theorem change (h : d.TagsMarked) (c : Change d d') : d'.TagsMarked := by
  cases c with
  | silent _ engine events repoints =>
    refine h.of_same engine ?_ ?_
    · rw [repoints]
    · intro i
      rw [Directory.tagRevised, events, Directory.tagRevised]
  | pointed who kind p t repoints =>
    refine h.after_same ?_ ?_
    · rw [repoints]
    · intro i
      cases kind <;> rfl
  | enrolled who draft seen =>
    refine h.after_same ?_ fun _ => rfl
    rw [Tables.enroll_columns]
  | rewritten who id u m seen =>
    refine h.after_same ?_ fun _ => rfl
    rw [Tables.rewrite_columns]
  | expelled who id m => exact h.after_same rfl fun _ => rfl
  | attempted m => exact h.of_same rfl rfl fun _ => rfl
  | tagAdded who draft seen => exact h.tagAdded who draft seen
  | tagRevised who draft old stored own => exact h.tagRevised draft stored own
  | tagRemoved who id tag =>
    exact h.unrevised rfl (tagRevised_other fun _ => rfl)
      (Table.forall_keep fun _ stored => .inl stored) le_rfl

end TagsMarked

end Directory

theorem Attainable.tagsMarked {d : Directory} (reached : Attainable d) : d.TagsMarked :=
  reached.changes_keep .empty fun _ _ c h => h.change c

/-! ## The same steps under both engines -/

/-- The same call of the same caller, or the execution of the job at the same place, at whatever
moment. -/
inductive Step.Repeats : Step → Step → Prop
  | call {t t' : Turn} (same : t.Repeats t') : Repeats (.call t) (.call t')
  | execute (moment moment' : Timestamp) (chain : List Provider) (index : Nat) :
    Repeats (.execute moment chain index) (.execute moment' chain index)

section

variable {who : Principal} {d d' : Directory}

/-! Lists and searches may differ, but they leave the directory alone. -/

theorem MerchantCommand.perform_view (h : d.view = d'.view) (c : MerchantCommand) :
    (c.perform who d).2.view = (c.perform who d').2.view := by
  cases c with
  | list search paging =>
    rw [perform, map_snd, map_snd]
    exact h
  | _ => exact (perform_alike h _ (by trivial) (by trivial)).state

theorem TagCommand.perform_view (h : d.view = d'.view) (c : TagCommand) :
    (c.perform who d).2.view = (c.perform who d').2.view := by
  cases c with
  | list search category paging =>
    rw [perform, map_snd, map_snd]
    exact h
  | _ => exact (perform_alike h _ (by trivial) (by trivial)).state

theorem PointCommand.perform_view (h : d.view = d'.view) (c : PointCommand) :
    (c.perform who d).2.view = (c.perform who d').2.view := by
  cases c with
  | list merchant search paging =>
    rw [perform, map_snd, map_snd]
    exact h
  | _ => exact (perform_alike h _ (by trivial) (by trivial)).state

theorem GeocodingCommand.perform_view (h : d.view = d'.view) (c : GeocodingCommand) :
    (c.perform d).2.view = (c.perform d').2.view := by
  cases c with
  | nearby longitude latitude radius limit =>
    obtain ⟨_, looked⟩ := Geocoding.nearby_looks longitude latitude radius limit d
    obtain ⟨_, looked'⟩ := Geocoding.nearby_looks longitude latitude radius limit d'
    rw [perform, map_snd, map_snd, looked, looked']
    exact h
  | _ => exact (perform_alike h _ (by trivial) (by trivial)).state

theorem Turn.issue_view {t t' : Turn} (same : t.Repeats t') (h : d.view = d'.view) :
    (t.issue d).2.view = (t'.issue d').2.view := by
  obtain ⟨who, command⟩ := same
  have clocks : Directory.view { d with now := t.moment } =
      Directory.view { d' with now := t'.moment } := h
  rw [issue, issue, ← who, ← command]
  cases t.command with
  | merchants c => exact c.perform_view clocks
  | tags c => exact c.perform_view clocks
  | points c => exact c.perform_view clocks
  | geocoding c => exact c.perform_view clocks
  | importFile c =>
    rw [Command.issue, map_snd, map_snd]
    exact (Import.importBytes_alike clocks c.importer c.autoGeocode c.bytes).state

theorem Step.take_view {s s' : Step} (same : s.Repeats s') (h : d.view = d'.view) :
    (s.take d).view = (s'.take d').view := by
  cases same with
  | call same => exact Turn.issue_view same h
  | execute moment moment' chain index =>
    have queue := Directory.queue_of_view h
    rw [take, take, ← queue]
    cases d.queue[index]? with
    | none => exact h
    | some job =>
      have ready : Directory.view { d with now := moment, queue := d.queue.eraseIdx index } =
          Directory.view { d' with now := moment', queue := d.queue.eraseIdx index } :=
        Directory.view_queue h _
      exact (Geocoding.link_alike ready chain job).state

theorem advance_view {steps steps' : List Step} (same : List.Forall₂ Step.Repeats steps steps')
    (h : d.view = d'.view) : (advance steps d).view = (advance steps' d').view := by
  induction same generalizing d d' with
  | nil => exact h
  | cons first _ ih => exact ih (Step.take_view first h)

end

/-! ## What readers see -/

/-- The tag as it is seen, but for dates, when this permission is stored on it. -/
def Tag.markedBy (d : Directory) (tag : Tag) : Tag :=
  { tag.timeless with permission := d.markOf tag.id }

namespace Directory.TagsMarked

variable {d d' : Directory}

theorem timeless_eq (h : d.TagsMarked) {merchants : List Int} {x : Int × Tag}
    (seen : x ∈ d.tables.tagged merchants) : x.2.timeless = x.2.bare.markedBy d := by
  obtain ⟨r, _, found⟩ := List.mem_filterMap.1 seen
  obtain ⟨tag, stored, rfl⟩ := Option.map_eq_some_iff.1 found
  have mark := h.marks tag (Table.mem_of_get? stored)
  show ({ tag.timeless with permission := tag.permission } : Tag) = _
  rw [mark]
  rfl

/-- The tags of some merchants are the same in directories that look the same, with the permissions
that are stored on them. -/
theorem tagged_eq (h : d.TagsMarked) (same : d.view = d'.view) (merchants : List Int) :
    (d.tables.tagged merchants).map (fun x => (x.1, x.2.timeless)) =
      (d'.tables.tagged merchants).map fun x => (x.1, x.2.markedBy d) := by
  have bare : (d.tables.tagged merchants).map (fun x => (x.1, x.2.bare)) =
      (d'.tables.tagged merchants).map fun x => (x.1, x.2.bare) := by
    rw [← Tables.view_tagged, ← Tables.view_tagged, Directory.tables_of_view same]
  have marked := congrArg (List.map fun x : Int × Tag => (x.1, x.2.markedBy d)) bare
  rw [List.map_map, List.map_map] at marked
  refine Eq.trans (List.map_congr_left ?_) marked
  intro x seen
  exact congrArg (Prod.mk x.1) (h.timeless_eq seen)

end Directory.TagsMarked

/-- The same steps on an empty directory of either engine. What is put in for a reader is stored
with no merchant, and with no tag in the database. In memory the permission of its owner is stored
on every tag that was written over. The tags that are put into a merchant are the same but for that
and for dates. -/
theorem stored_permissions {steps steps' : List Step} (moment moment' : Timestamp)
    (same : List.Forall₂ Step.Repeats steps steps') :
    let d := advance steps (.empty .memory moment)
    let d' := advance steps' (.empty .sqlite moment')
    (∀ m ∈ d.tables.merchants.rows ++ d'.tables.merchants.rows,
      m.tags = [] ∧ m.points = [] ∧ m.isFavorite = false ∧ m.permission = .read) ∧
    (∀ tag ∈ d'.tables.tags.rows, tag.permission = .read) ∧
    (∀ tag ∈ d.tables.tags.rows,
      tag.permission = if d.tagRevised tag.id = true then .admin else .read) ∧
    ∀ (who : Principal) (m m' : Merchant), m.id = m'.id →
      (d.tables.detailed who m).tags.map Tag.timeless =
        (d'.tables.detailed who m').tags.map fun tag =>
          { tag.timeless with
            permission := if d.tagRevised tag.id = true then .admin else .read } := by
  intro d d'
  have reached : Attainable d := ⟨.memory, moment, steps, rfl⟩
  have reached' : Attainable d' := ⟨.sqlite, moment', steps', rfl⟩
  have engine : d.engine = .memory := advance_engine steps _
  have engine' : d'.engine = .sqlite := advance_engine steps' _
  have marked := reached.tagsMarked
  refine ⟨?rows, ?database, ?memory, ?seen⟩
  case rows =>
    have stripped : ∀ {e : Engine} {m : Merchant}, e.keptMerchant m = m →
        m.tags = [] ∧ m.points = [] ∧ m.isFavorite = false ∧ m.permission = .read := by
      intro e m kept
      rw [← kept]
      exact ⟨rfl, rfl, rfl, rfl⟩
    intro m stored
    obtain stored | stored := List.mem_append.1 stored
    · exact stripped (reached.merchantsKept m stored)
    · exact stripped (reached'.merchantsKept m stored)
  case database =>
    intro tag stored
    rw [reached'.tagsMarked.marks tag stored, Directory.markOf, engine', if_neg]
    rintro ⟨⟨⟩, _⟩
  case memory =>
    intro tag stored
    rw [marked.marks tag stored, Directory.markOf, engine]
    simp only [true_and]
  case seen =>
    intro who m m' named
    have view : d.view = d'.view := advance_view same rfl
    have tagged := congrArg (List.map Prod.snd) (marked.tagged_eq view [m.id])
    rw [List.map_map, List.map_map] at tagged
    simp only [Tables.detailed, ← named, List.map_map]
    refine tagged.trans (List.map_congr_left ?_)
    intro x _
    simp only [Function.comp_apply, Tag.markedBy, Directory.markOf, engine, true_and]

/-- A bakery gets a tag, which is then written over: the two engines keep the same tag on it, one of
them with a permission. -/
theorem stored_permissions_on_bakery :
    let ada : Principal := ⟨1, "ada"⟩
    let bread : TagDraft := ⟨"bread", "", "", "", ""⟩
    let bakery : MerchantFields := { MerchantFields.blank with title := "Bakery" }
    let steps : List Step := [.call ⟨ada, default, .tags (.create bread)⟩,
      .call ⟨ada, default, .merchants (.create ⟨bakery, [1], [], true⟩)⟩,
      .call ⟨ada, default, .tags (.update 1 bread)⟩]
    let d := advance steps (.empty .memory default)
    let d' := advance steps (.empty .sqlite default)
    List.Forall₂ Step.Repeats steps steps ∧
      (∀ tag ∈ d'.tables.tags.rows, tag.permission = .read) ∧
      ∃ m ∈ d.tables.merchants.rows, ∃ m' ∈ d'.tables.merchants.rows, m.id = 1 ∧ m'.id = 1 ∧
        (d'.tables.detailed ada m').tags.map (fun tag => (tag.id, tag.name)) = [(1, "bread")] ∧
        d.tagRevised 1 = true ∧
        (d.tables.detailed ada m).tags.map Tag.timeless =
          (d'.tables.detailed ada m').tags.map fun tag =>
            { tag.timeless with
              permission := if d.tagRevised tag.id = true then .admin else .read } := by
  intro ada bread bakery steps d d'
  have same : List.Forall₂ Step.Repeats steps steps :=
    .cons (.call ⟨rfl, rfl⟩) (.cons (.call ⟨rfl, rfl⟩) (.cons (.call ⟨rfl, rfl⟩) .nil))
  obtain ⟨_, database, _, seen⟩ := stored_permissions default default same
  have stored : d.tables.merchants.rows.map Merchant.id = [1] := by decide +kernel
  have stored' : (d'.tables.merchants.rows.map fun m =>
      (m.id, (d'.tables.detailed ada m).tags.map fun tag => (tag.id, tag.name))) =
        [(1, [(1, "bread")])] := by decide +kernel
  obtain ⟨m, hm, named⟩ := List.mem_map.1 (stored ▸ List.mem_singleton_self (1 : Int))
  obtain ⟨m', hm', shown⟩ := List.mem_map.1 (stored' ▸ List.mem_singleton_self _)
  obtain ⟨named', tags⟩ := Prod.mk.inj shown
  have revised : d.tagRevised 1 = true := by decide +kernel
  exact ⟨same, database, m, hm, m', hm', named, named', tags, revised,
    seen ada m m' (named.trans named'.symm)⟩

/-- In memory the permission of its owner is stored on a tag that was written over, and it shows on
the tag inside a merchant, where the database shows none. -/
theorem revised_tag_keeps_permission :
    let ada : Principal := ⟨1, "ada"⟩
    let bread : TagDraft := ⟨"bread", "", "", "", ""⟩
    let bakery : MerchantFields := { MerchantFields.blank with title := "Bakery" }
    let d (e : Engine) := run [⟨ada, default, .tags (.create bread)⟩,
      ⟨ada, default, .merchants (.create ⟨bakery, [1], [], false⟩)⟩,
      ⟨ada, default, .tags (.update 1 bread)⟩] (.empty e default)
    let stored (e : Engine) := (d e).tables.tags.rows.map Tag.permission
    let shown (e : Engine) :=
      (Merchants.find ada 1 (d e)).1.toOption.map fun m => m.tags.map Tag.permission
    stored .memory = [.admin] ∧ stored .sqlite = [.read] ∧
      shown .memory = some [.admin] ∧ shown .sqlite = some [.read] := by
  decide +kernel

end Gazetteer
