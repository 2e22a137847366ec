import Gazetteer.Proofs.Integrity

/-!
# Callers leave the data of others alone

A turn may fail or succeed and may name any ids: what does not belong to the caller is the same
afterwards, and no point goes to a merchant that the caller does not own.

* `Tables.Spares`: what belongs to others is the same.
* `Write.spares`: one write spares it.
* `turn_spares`: so does a turn, in any directory that a run reaches.
-/

set_option autoImplicit false

namespace Gazetteer

namespace Tables

/-- The merchant is stored and belongs to somebody else. -/
def Foreign (who : Principal) (m : Int) (t : Tables) : Prop :=
  ∃ r, t.merchants.get? m = some r ∧ r.owner ≠ who.id

/-- The merchants and tags of others are the same, and so are the favorites and the points of these
merchants. A point that names a merchant the caller does not own named it before. -/
structure Spares (who : Principal) (t t' : Tables) : Prop where
  merchants : t'.merchants.rows.filter (·.owner ≠ who.id) =
    t.merchants.rows.filter (·.owner ≠ who.id)
  tags : t'.tags.rows.filter (·.owner ≠ who.id) = t.tags.rows.filter (·.owner ≠ who.id)
  favorites : ∀ m, t.Foreign who m →
    t'.favorites.filter (·.merchant = m) = t.favorites.filter (·.merchant = m)
  points : ∀ m, t.Foreign who m → t'.pointsOf m = t.pointsOf m
  links : ∀ p ∈ t'.points.rows, ∀ m, p.merchant = some m → p ∈ t.points.rows ∨ t'.Owns who m

end Tables

/-! ## One write -/

namespace Write

variable {e : Engine} {who : Principal} {t t' : Tables}

theorem spares_merchants (w : Write e who t t') :
    t'.merchants.rows.filter (·.owner ≠ who.id) = t.merchants.rows.filter (·.owner ≠ who.id) := by
  cases w with
  | addMerchant m _ own =>
    refine Table.filter_insert _ _ ?_
    exact decide_eq_false (not_not_intro own)
  | rewriteMerchant m _ before own =>
    obtain ⟨old, hold, ho⟩ := before
    refine Table.filter_modify _ _ _ ?_
    intro r hr
    cases hold.symm.trans hr
    refine ⟨decide_eq_false (not_not_intro ho), ?_⟩
    cases e
    · exact decide_eq_false (not_not_intro own)
    · exact decide_eq_false (not_not_intro ho)
  | expel id _ own =>
    obtain ⟨old, hold, ho⟩ := own
    refine Table.filter_erase _ _ ?_
    intro r hr
    cases hold.symm.trans hr
    exact decide_eq_false (not_not_intro ho)
  | favor id _ own => rw [Tables.addFavorite_eq]
  | _ => rfl

theorem spares_tags (w : Write e who t t') :
    t'.tags.rows.filter (·.owner ≠ who.id) = t.tags.rows.filter (·.owner ≠ who.id) := by
  cases w with
  | addTag tag _ own =>
    refine Table.filter_insert _ _ ?_
    cases e <;> exact decide_eq_false (not_not_intro own)
  | rewriteTag tag old _ stored before own =>
    refine Table.filter_modify _ _ _ ?_
    intro r hr
    cases stored.symm.trans hr
    refine ⟨decide_eq_false (not_not_intro before), ?_⟩
    cases e
    · exact decide_eq_false (not_not_intro own)
    · exact decide_eq_false (not_not_intro before)
  | removeTag id tag _ stored own =>
    refine Table.filter_erase _ _ ?_
    intro r hr
    cases stored.symm.trans hr
    exact decide_eq_false (not_not_intro own)
  | favor id _ own =>
    rw [Tables.addFavorite]
    split <;> rfl
  | _ => rfl

/-- What is foreign is not owned. -/
theorem ne_of_foreign {m id : Int} (foreign : t.Foreign who m) (own : t.Owns who id) : id ≠ m := by
  rintro rfl
  obtain ⟨r, hr, ne⟩ := foreign
  obtain ⟨r', hr', ho⟩ := own
  cases hr.symm.trans hr'
  exact ne ho

theorem spares_favorites (w : Write e who t t') {m : Int} (foreign : t.Foreign who m) :
    t'.favorites.filter (·.merchant = m) = t.favorites.filter (·.merchant = m) := by
  cases w with
  | expel id _ own =>
    have ne := ne_of_foreign foreign own
    refine (List.filter_filter ..).trans (List.filter_congr ?_)
    intro f _
    by_cases hf : f.merchant = m
    · simp [hf, ne.symm]
    · simp [hf]
  | favor id _ own =>
    have ne := ne_of_foreign foreign own
    rw [Tables.addFavorite]
    split
    · rfl
    · simp [ne]
  | disfavor id _ own =>
    have ne := ne_of_foreign foreign own
    refine (List.filter_filter ..).trans (List.filter_congr ?_)
    intro f _
    by_cases hf : f.merchant = m
    · have other : f ≠ ⟨who.id, id⟩ := by
        rintro rfl
        exact ne hf
      simp [hf, other]
    · simp [hf]
  | _ => rfl

theorem not_held_of_takes {id m : Int} (foreign : t.Foreign who m) (takes : t.Takes who id)
    {p : GeoPoint} (hp : t.points.get? id = some p) : p.merchant ≠ some m := by
  intro hm
  obtain ⟨q, hq, free⟩ := takes
  cases hp.symm.trans hq
  obtain ⟨r, hr, ne⟩ := foreign
  exact ne (free m r hm hr)

theorem not_held_of_owned {m : Int} (foreign : t.Foreign who m) {holder : Option Int}
    (own : t.OwnsHolder who holder) : holder ≠ some m := by
  rintro rfl
  exact ne_of_foreign foreign (own m rfl) rfl

theorem spares_points (w : Write e who t t') {m : Int} (foreign : t.Foreign who m) :
    t'.pointsOf m = t.pointsOf m := by
  cases w with
  | expel id _ own =>
    have ne := ne_of_foreign foreign own
    refine (List.filter_filter ..).trans (List.filter_congr ?_)
    intro p _
    by_cases hp : p.merchant = some m
    · simp [hp, ne.symm]
    · simp [hp]
  | addPoint p _ own =>
    refine Table.filter_insert _ _ ?_
    exact decide_eq_false (not_held_of_owned foreign own)
  | rewritePoint p old _ stored free own =>
    refine Table.filter_modify _ _ _ ?_
    intro r hr
    have before := not_held_of_takes foreign ⟨old, stored, free⟩ hr
    have after := not_held_of_owned foreign own
    refine ⟨decide_eq_false before, ?_⟩
    cases e <;> exact decide_eq_false after
  | removePoint id _ takes =>
    refine Table.filter_erase _ _ ?_
    intro r hr
    exact decide_eq_false (not_held_of_takes foreign takes hr)
  | movePoint id target _ takes own =>
    refine Table.filter_modify _ _ _ ?_
    intro r hr
    have before := not_held_of_takes foreign takes hr
    have after := not_held_of_owned foreign own
    exact ⟨decide_eq_false before, decide_eq_false after⟩
  | favor id _ own =>
    rw [Tables.addFavorite_eq]
    rfl
  | _ => rfl

/-- A foreign merchant stays foreign. -/
theorem foreign (w : Write e who t t') {m : Int} (h : t.Foreign who m) : t'.Foreign who m := by
  obtain ⟨r, hr, ne⟩ := h
  have mem : r ∈ t.merchants.rows.filter (·.owner ≠ who.id) :=
    List.mem_filter.2 ⟨Table.mem_of_get? hr, decide_eq_true ne⟩
  rw [← w.spares_merchants] at mem
  obtain rfl := Table.key_of_get? hr
  exact ⟨r, Table.get?_of_mem (List.mem_filter.1 mem).1, ne⟩

/-- An own merchant stays own, or goes with the points that it held. -/
theorem owns_or_released (w : Write e who t t') {m : Int} (own : t.Owns who m) {p : GeoPoint}
    (hp : p ∈ t'.points.rows) (hm : p.merchant = some m) : t'.Owns who m := by
  obtain ⟨r, hr, ho⟩ := own
  obtain ⟨r', hr', same⟩ | gone := w.merchant_kept hr
  · exact ⟨r', hr', same.trans ho⟩
  · cases gone.points p hp hm

end Write

/-! ## Turns -/

namespace Tables

theorem Spares.refl (who : Principal) (t : Tables) : t.Spares who t :=
  ⟨rfl, rfl, fun _ _ => rfl, fun _ _ => rfl, fun _ hp _ _ => .inl hp⟩

theorem Foreign.writes {e : Engine} {who : Principal} {t t' : Tables} {m : Int}
    (h : t.Foreign who m) (ws : Writes e who t t') : t'.Foreign who m :=
  ws.keeps (fun _ _ w f => w.foreign f) h

end Tables

theorem Writes.spares {e : Engine} {who : Principal} {t t' : Tables} (ws : Writes e who t t') :
    t.Spares who t' := by
  induction ws with
  | refl => exact .refl who t
  | tail before w ih =>
    -- what is foreign at the start is still foreign at the last write
    refine ⟨w.spares_merchants.trans ih.merchants, w.spares_tags.trans ih.tags, ?_, ?_, ?_⟩
    · intro m foreign
      exact (w.spares_favorites (foreign.writes before)).trans (ih.favorites m foreign)
    · intro m foreign
      exact (w.spares_points (foreign.writes before)).trans (ih.points m foreign)
    · intro p hp m hm
      obtain old | own := w.point_link hp hm
      · obtain old | own := ih.links p old m hm
        · exact .inl old
        · exact .inr (w.owns_or_released own hp hm)
      · exact .inr own

/-- Whatever run came before and whoever takes the turn, it spares the data of everybody else. Only
linking an address to a merchant is left out, where no caller is known. -/
theorem turn_spares (d : Directory) (reached : Reachable d) (t : Turn)
    (checked : t.command.linksUnchecked = false) :
    d.tables.Spares t.who (t.take d).2.tables :=
  (t.take_wrote d reached.idle checked).writes.spares

/-- Somebody else takes a turn on a merchant and on its tag. -/
theorem denied_turn_spares :
    let ada : Principal := ⟨1, "ada"⟩
    let bob : Principal := ⟨2, "bob"⟩
    let draft : MerchantDraft :=
      ⟨⟨"Bakery", "", "", "", "", "", none, none, "", 0, "", 0⟩, [5], [], true⟩
    let d := run [⟨ada, default, .merchants (.create draft)⟩] (.empty .memory default)
    let t : Turn := ⟨bob, default, .merchants (.delete 1)⟩
    d.tables.Spares bob (t.take d).2.tables := by
  intro ada bob draft d t
  exact turn_spares d ⟨.memory, default, _, rfl⟩ t rfl

end Gazetteer
