import Gazetteer.Proofs.Effects
import Mathlib

/-!
# No link leads nowhere

Links between rows are plain ids, and no table checks those of another. Still every merchant that a
point, a tag relation or a favorite names is stored, because each write leaves it so and ids are
never given out twice.

* `Tables.Integral`: every named merchant is stored, a favorite by its owner.
* `Table.Grows`: whatever is new has an id past all that were given out.
* `Tables.Forgets`: a merchant that nothing names.
* `run_integral`: what holds along every run.
-/

set_option autoImplicit false

namespace Gazetteer

/-! ## Ids -/

namespace Table

variable {α : Type} [Keyed α]

/-- The ids given out only become more, and a row is one from before or its id is past all of
those. -/
structure Grows (t t' : Table α) : Prop where
  last : t.last ≤ t'.last
  rows : ∀ r ∈ t'.rows, t.last < key r ∨ ∃ old ∈ t.rows, key old = key r

theorem Grows.refl (t : Table α) : t.Grows t :=
  ⟨Int.le_refl _, fun r hr => .inr ⟨r, hr, rfl⟩⟩

theorem Grows.trans {t₁ t₂ t₃ : Table α} (h : t₁.Grows t₂) (h' : t₂.Grows t₃) : t₁.Grows t₃ where
  last := Int.le_trans h.last h'.last
  rows := by
    intro r hr
    have hl := h.last
    obtain new | ⟨r₂, hr₂, hk⟩ := h'.rows r hr
    · exact .inl (by omega)
    · rw [← hk]
      exact h.rows r₂ hr₂

theorem grows_insert (t : Table α) (a : α) : t.Grows (t.insert a) where
  last := by
    show t.last ≤ t.last + 1
    omega
  rows := by
    intro r hr
    obtain hr | hr := List.mem_append.1 hr
    · exact .inr ⟨r, hr, rfl⟩
    · obtain rfl := List.mem_singleton.1 hr
      refine .inl ?_
      rw [key_withKey, next]
      omega

theorem grows_modify (t : Table α) (i : Int) (f : α → α) : t.Grows (t.modify i f) where
  last := Int.le_refl _
  rows := by
    intro r hr
    obtain ⟨old, hold, rfl⟩ := List.mem_map.1 hr
    exact .inr ⟨old, hold, (key_changed i f old).symm⟩

theorem grows_keep (t : Table α) (p : α → Bool) : t.Grows (t.keep p) where
  last := Int.le_refl _
  rows := fun r hr => .inr ⟨r, (List.mem_filter.1 hr).1, rfl⟩

theorem keys_nodup (t : Table α) : (t.rows.map key).Nodup :=
  List.pairwise_map.2 (t.increasing.imp Int.ne_of_lt)

/-- An id that was given out and has no row any more never has one again. -/
theorem Grows.get?_none {t t' : Table α} {i : Int} (h : t.Grows t') (used : i ≤ t.last)
    (gone : t.get? i = none) : t'.get? i = none := by
  cases hr : t'.get? i with
  | none => rfl
  | some r =>
    have hk := key_of_get? hr
    obtain new | ⟨old, hold, ho⟩ := h.rows r (mem_of_get? hr)
    · omega
    · have found := get?_of_mem hold
      rw [ho, hk, gone] at found
      cases found

end Table

namespace Tables

/-- All tables with ids grow. -/
structure Grows (t t' : Tables) : Prop where
  merchants : t.merchants.Grows t'.merchants
  tags : t.tags.Grows t'.tags
  points : t.points.Grows t'.points

theorem Grows.refl (t : Tables) : t.Grows t := ⟨.refl _, .refl _, .refl _⟩

theorem Grows.trans {t₁ t₂ t₃ : Tables} (h : t₁.Grows t₂) (h' : t₂.Grows t₃) : t₁.Grows t₃ :=
  ⟨h.merchants.trans h'.merchants, h.tags.trans h'.tags, h.points.trans h'.points⟩

/-- Nothing in the tables names the merchant. -/
structure Forgets (m : Int) (t : Tables) : Prop where
  merchants : t.merchants.get? m = none
  points : ∀ p ∈ t.points.rows, p.merchant ≠ some m
  relations : ∀ r ∈ t.relations, r.merchant ≠ m
  favorites : ∀ f ∈ t.favorites, f.merchant ≠ m

/-- Whatever names a merchant names one that is stored, and a favorite is one of the owner. -/
structure Integral (t : Tables) : Prop where
  merchantIds : (t.merchants.rows.map key).Nodup
  tagIds : (t.tags.rows.map key).Nodup
  pointIds : (t.points.rows.map key).Nodup
  points : ∀ p ∈ t.points.rows, ∀ m, p.merchant = some m → ∃ r, t.merchants.get? m = some r
  relations : ∀ l ∈ t.relations, ∃ r, t.merchants.get? l.merchant = some r
  favorites : ∀ f ∈ t.favorites, ∃ r, t.merchants.get? f.merchant = some r ∧ r.owner = f.user

theorem integral_empty : empty.Integral where
  merchantIds := Table.keys_nodup _
  tagIds := Table.keys_nodup _
  pointIds := Table.keys_nodup _
  points := fun _ h => nomatch h
  relations := fun _ h => nomatch h
  favorites := fun _ h => nomatch h

theorem Integral.forgets {t : Tables} {m : Int} (h : t.Integral)
    (gone : t.merchants.get? m = none) : t.Forgets m where
  merchants := gone
  points := by
    intro p hp hm
    obtain ⟨r, hr⟩ := h.points p hp m hm
    rw [gone] at hr
    cases hr
  relations := by
    rintro l hl rfl
    obtain ⟨r, hr⟩ := h.relations l hl
    rw [gone] at hr
    cases hr
  favorites := by
    rintro f hf rfl
    obtain ⟨r, hr, _⟩ := h.favorites f hf
    rw [gone] at hr
    cases hr

end Tables

/-! ## What a write does to the links -/

namespace Write

variable {e : Engine} {who : Principal} {t t' : Tables}

theorem grows (w : Write e who t t') : t.Grows t' := by
  cases w with
  | addMerchant m _ own => exact ⟨Table.grows_insert _ _, .refl _, .refl _⟩
  | rewriteMerchant m _ before own => exact ⟨Table.grows_modify _ _ _, .refl _, .refl _⟩
  | expel id _ own => exact ⟨Table.grows_keep _ _, .refl _, Table.grows_keep _ _⟩
  | addTag tag _ own => exact ⟨.refl _, Table.grows_insert _ _, .refl _⟩
  | rewriteTag tag old _ stored before own => exact ⟨.refl _, Table.grows_modify _ _ _, .refl _⟩
  | removeTag id tag _ stored own => exact ⟨.refl _, Table.grows_keep _ _, .refl _⟩
  | addRelation r _ own => exact ⟨.refl _, .refl _, .refl _⟩
  | clearRelations id _ => exact ⟨.refl _, .refl _, .refl _⟩
  | addPoint p _ own => exact ⟨.refl _, .refl _, Table.grows_insert _ _⟩
  | rewritePoint p old _ stored free own => exact ⟨.refl _, .refl _, Table.grows_modify _ _ _⟩
  | removePoint id _ takes => exact ⟨.refl _, .refl _, Table.grows_keep _ _⟩
  | movePoint id target _ takes own => exact ⟨.refl _, .refl _, Table.grows_modify _ _ _⟩
  | favor id _ own =>
    rw [Tables.addFavorite]
    split <;> exact ⟨.refl _, .refl _, .refl _⟩
  | disfavor id _ own => exact ⟨.refl _, .refl _, .refl _⟩

/-- A point that names a merchant was there before, or the merchant is one of the caller. -/
theorem point_link (w : Write e who t t') {p : GeoPoint} {m : Int} (hp : p ∈ t'.points.rows)
    (hm : p.merchant = some m) : p ∈ t.points.rows ∨ t'.Owns who m := by
  cases w with
  | expel id _ own => exact .inl (List.mem_filter.1 hp).1
  | addPoint q _ own =>
    obtain hp | hp := List.mem_append.1 hp
    · exact .inl hp
    · obtain rfl := List.mem_singleton.1 hp
      exact .inr (own m hm)
  | rewritePoint q old _ stored free own =>
    obtain ⟨r, hr, hc⟩ := List.mem_map.1 hp
    rw [Table.changed] at hc
    split at hc
    · obtain rfl := hc
      exact .inr (own m (by cases e <;> exact hm))
    · exact .inl (hc ▸ hr)
  | removePoint id _ takes => exact .inl (List.mem_filter.1 hp).1
  | movePoint id target _ takes own =>
    obtain ⟨r, hr, hc⟩ := List.mem_map.1 hp
    rw [Table.changed] at hc
    split at hc
    · obtain rfl := hc
      exact .inr (own m hm)
    · exact .inl (hc ▸ hr)
  | favor id _ own =>
    rw [Tables.addFavorite_eq] at hp
    exact .inl hp
  | _ => exact .inl hp

theorem relation_link (w : Write e who t t') {l : Relation} (hl : l ∈ t'.relations) :
    l ∈ t.relations ∨ t'.Owns who l.merchant := by
  cases w with
  | expel id _ own => exact .inl (List.mem_filter.1 hl).1
  | removeTag id tag _ stored own => exact .inl (List.mem_filter.1 hl).1
  | addRelation r _ own =>
    obtain hl | hl := List.mem_append.1 hl
    · exact .inl hl
    · obtain rfl := List.mem_singleton.1 hl
      exact .inr own
  | clearRelations id _ => exact .inl (List.mem_filter.1 hl).1
  | favor id _ own =>
    rw [Tables.addFavorite] at hl
    split at hl <;> exact .inl hl
  | _ => exact .inl hl

theorem favorite_link (w : Write e who t t') {f : Favorite} (hf : f ∈ t'.favorites) :
    f ∈ t.favorites ∨ (f.user = who.id ∧ t'.Owns who f.merchant) := by
  cases w with
  | expel id _ own => exact .inl (List.mem_filter.1 hf).1
  | favor id _ own =>
    have same : (t.addFavorite who.id id).merchants = t.merchants := by
      rw [Tables.addFavorite_eq]
    have owns := Tables.owns_of_merchants same own
    rw [Tables.addFavorite] at hf
    split at hf
    · exact .inl hf
    · obtain hf | hf := List.mem_append.1 hf
      · exact .inl hf
      · obtain rfl := List.mem_singleton.1 hf
        exact .inr ⟨rfl, owns⟩
  | disfavor id _ own => exact .inl (List.mem_filter.1 hf).1
  | _ => exact .inl hf

theorem expel_forgets (id : Int) (t : Tables) : (t.expel id).Forgets id where
  merchants := (Table.get?_erase _ _ _).trans (if_pos rfl)
  points := by
    intro p hp
    simpa using (List.mem_filter.1 hp).2
  relations := by
    intro l hl
    simpa using (List.mem_filter.1 hl).2
  favorites := by
    intro f hf
    simpa using (List.mem_filter.1 hf).2

/-- A merchant stays with its owner, or nothing is left of it. -/
theorem merchant_kept (w : Write e who t t') {m : Int} {r : Merchant}
    (h : t.merchants.get? m = some r) :
    (∃ r', t'.merchants.get? m = some r' ∧ r'.owner = r.owner) ∨ t'.Forgets m := by
  cases w with
  | addMerchant new _ own => exact .inl ⟨r, Tables.get?_insertMerchant h, rfl⟩
  | rewriteMerchant new _ before own => exact .inl (Tables.updateMerchant_owner before own h)
  | expel id _ own =>
    by_cases same : m = id
    · exact .inr (same ▸ expel_forgets id t)
    · exact .inl ⟨r, ((Table.get?_erase _ _ _).trans (if_neg same)).trans h, rfl⟩
  | favor id _ own =>
    rw [Tables.addFavorite_eq]
    exact .inl ⟨r, h, rfl⟩
  | _ => exact .inl ⟨r, h, rfl⟩

/-- A name that is old keeps its merchant, and one that is new names a merchant of the caller. -/
theorem integral (w : Write e who t t') (h : t.Integral) : t'.Integral where
  merchantIds := Table.keys_nodup _
  tagIds := Table.keys_nodup _
  pointIds := Table.keys_nodup _
  points := by
    intro p hp m hm
    obtain old | ⟨r, hr, _⟩ := w.point_link hp hm
    · obtain ⟨r, hr⟩ := h.points p old m hm
      obtain ⟨r', hr', _⟩ | gone := w.merchant_kept hr
      · exact ⟨r', hr'⟩
      · cases gone.points p hp hm
    · exact ⟨r, hr⟩
  relations := by
    intro l hl
    obtain old | ⟨r, hr, _⟩ := w.relation_link hl
    · obtain ⟨r, hr⟩ := h.relations l old
      obtain ⟨r', hr', _⟩ | gone := w.merchant_kept hr
      · exact ⟨r', hr'⟩
      · cases gone.relations l hl rfl
    · exact ⟨r, hr⟩
  favorites := by
    intro f hf
    obtain old | ⟨user, r, hr, owner⟩ := w.favorite_link hf
    · obtain ⟨r, hr, owner⟩ := h.favorites f old
      obtain ⟨r', hr', same⟩ | gone := w.merchant_kept hr
      · exact ⟨r', hr', same.trans owner⟩
      · cases gone.favorites f hf rfl
    · exact ⟨r, hr, owner.trans user.symm⟩

end Write

/-! ## Runs -/

namespace Wrote

variable {who : Principal} {d d' : Directory}

theorem grows (h : Wrote who d d') : d.tables.Grows d'.tables :=
  h.writes.keeps (fun _ _ w g => g.trans w.grows) (.refl _)

theorem integral (h : Wrote who d d') (start : d.tables.Integral) : d'.tables.Integral :=
  h.writes.keeps (fun _ _ w i => w.integral i) start

end Wrote

/-- Between checked turns no job waits, links lead to stored merchants, and the tables have
grown. -/
structure Sound (d₀ d : Directory) : Prop where
  idle : d.queue = []
  integral : d.tables.Integral
  grows : d₀.tables.Grows d.tables

theorem Sound.take {d₀ d : Directory} (h : Sound d₀ d) {t : Turn}
    (checked : t.command.linksUnchecked = false) : Sound d₀ (t.take d).2 := by
  have wrote := t.take_wrote d h.idle checked
  exact ⟨wrote.queue.trans h.idle, wrote.integral h.integral, h.grows.trans wrote.grows⟩

theorem Sound.run {d₀ d : Directory} (h : Sound d₀ d) {turns : List Turn}
    (checked : ∀ t ∈ turns, t.command.linksUnchecked = false) : Sound d₀ (run turns d) :=
  run_keeps (fun t ht _ hd => hd.take (checked t ht)) h

theorem sound_empty (engine : Engine) (moment : Timestamp) :
    Sound (.empty engine moment) (.empty engine moment) :=
  ⟨rfl, Tables.integral_empty, .refl _⟩

/-- A delete that succeeds leaves nothing of a merchant whose id was given out. -/
theorem delete_forgets {t : Turn} {d : Directory} {id : Int}
    (ht : t.command = .merchants (.delete id)) (done : (t.take d).1 = .ok .done) :
    id ≤ (t.take d).2.tables.merchants.last ∧ (t.take d).2.tables.Forgets id ∧
      (t.take d).2.queue = d.queue := by
  rw [Turn.take, ht, Command.perform, MerchantCommand.perform, Action.map_apply,
    Merchants.delete_eq] at done ⊢
  obtain ⟨e, _, h⟩ | ⟨m, owned, h⟩ := Action.guarded_cases
    (fun d => Merchants.ownedIn t.who id d.tables)
    (fun m d => ((), d.after (d.tables.expel id) .merchantDeleted (.merchant m) t.who))
    { d with now := t.moment }
  · rw [h] at done
    cases done
  · rw [h]
    have stored := (Merchants.ownedIn_eq_ok owned).1
    have bound := d.tables.merchants.bounded m (Table.mem_of_get? stored)
    rw [Table.key_of_get? stored] at bound
    exact ⟨bound, Write.expel_forgets id d.tables, rfl⟩

theorem delete_done {t : Turn} {d : Directory} {id : Int} (ht : t.command = .merchants (.delete id))
    (done : (t.take d).1 = .ok .done) :
    id ≤ (t.take d).2.tables.merchants.last ∧ (t.take d).2.tables.merchants.get? id = none := by
  obtain ⟨used, forgotten, _⟩ := delete_forgets ht done
  exact ⟨used, forgotten.merchants⟩

/-- Along every run from an empty directory, whoever takes the turns: every merchant that is named
is stored, ids are new when they are given out, and of a merchant that was deleted nothing is ever
seen again. -/
theorem run_integral (engine : Engine) (moment : Timestamp) (turns : List Turn)
    (checked : ∀ t ∈ turns, t.command.linksUnchecked = false) :
    let start := Directory.empty engine moment
    (run turns start).tables.Integral ∧
    (∀ early late, turns = early ++ late →
      (run early start).tables.Grows (run turns start).tables) ∧
    ∀ early t late id, turns = early ++ t :: late → t.command = .merchants (.delete id) →
      (t.take (run early start)).1 = .ok .done → (run turns start).tables.Forgets id := by
  intro start
  have whole : Sound start (run turns start) := (sound_empty engine moment).run checked
  have grown : ∀ early late, turns = early ++ late →
      (run early start).tables.Grows (run turns start).tables := by
    rintro early late rfl
    have before : Sound start (run early start) :=
      (sound_empty engine moment).run fun t ht => checked t (List.mem_append_left _ ht)
    have restart : Sound (run early start) (run early start) :=
      ⟨before.idle, before.integral, .refl _⟩
    rw [run_append]
    exact (restart.run fun t ht => checked t (List.mem_append_right _ ht)).grows
  refine ⟨whole.integral, grown, ?_⟩
  -- the id was given out and is free, and tables that grow do not give it out again
  intro early t late id split ht done
  obtain ⟨used, gone⟩ := delete_done ht done
  have grows := grown (early ++ [t]) late (by rw [split, List.append_assoc]; rfl)
  rw [run_append] at grows
  exact whole.integral.forgets (grows.merchants.get?_none used gone)

/-- A merchant is created as a favorite with a tag and deleted, and another one follows. -/
theorem deleted_merchant_forgotten :
    let ada : Principal := ⟨1, "ada"⟩
    let draft (title : String) : MerchantDraft :=
      ⟨⟨title, "", "", "", "", "", none, none, "", 0, "", 0⟩, [5], [], true⟩
    let turns : List Turn := [
      ⟨ada, default, .merchants (.create (draft "Bakery"))⟩,
      ⟨ada, default, .merchants (.delete 1)⟩,
      ⟨ada, default, .merchants (.create (draft "Butcher"))⟩]
    (run turns (.empty .sqlite default)).tables.Forgets 1 := by
  intro ada draft turns
  have checked : ∀ t ∈ turns, t.command.linksUnchecked = false := by
    simp [turns, Command.linksUnchecked]
  have done : (turns[1].take (run [turns[0]] (.empty .sqlite default))).1 = .ok .done := by cbv
  obtain ⟨-, -, forgotten⟩ := run_integral .sqlite default turns checked
  exact forgotten [turns[0]] turns[1] [turns[2]] 1 rfl rfl done

end Gazetteer
