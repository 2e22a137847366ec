import Gazetteer.Proofs.InFlight

/-!
# Merchants deleted with jobs in flight

A job carries the id of its merchant, and nobody asks whether the merchant is still there when the
job is executed. So the point of a deleted merchant can come after the delete. It is the only one,
and nothing else ever names the merchant again.

* `Linked.point_link`: which points a link gives to a merchant.
* `Writes.pointsOf_of_gone`: what callers do to the points of a merchant that is gone.
* `Departed`: a merchant that was deleted while jobs were in flight.
* `deleted_merchant_points`: its points along every run.
-/

set_option autoImplicit false

namespace Gazetteer

/-! ## The points of a merchant -/

namespace Geocoding

variable {d : Directory}

/-- The point that was saved is stored under its id. -/
theorem Saved.stored {address source : String} {metadata : Json.Object} {d' : Directory}
    {p : GeoPoint} (h : Saved address source metadata d (.ok p, d')) :
    ∃ q, d'.tables.points.get? p.id = some q ∧ q.address = address ∧ q.source = source := by
  cases h with
  | onRecord _ record =>
    obtain ⟨stored, same⟩ := Tables.pointFor?_some record
    exact ⟨p, Table.get?_of_mem stored, same⟩
  | added answer ls r _ _ h =>
    subst h
    exact ⟨_, Table.get?_insert_self d.tables.points _, rfl, rfl⟩

theorem Saved.point_link {address source : String} {metadata : Json.Object}
    {r : Except Failure GeoPoint × Directory} (h : Saved address source metadata d r)
    {p : GeoPoint} {m : Int} (hp : p ∈ r.2.tables.points.rows) (hm : p.merchant = some m) :
    p ∈ d.tables.points.rows := by
  cases h with
  | refused e ls => exact hp
  | onRecord q _ => exact hp
  | added answer ls r _ _ h =>
    subst h
    obtain hp | hp := List.mem_append.1 hp
    · exact hp
    · obtain rfl := List.mem_singleton.1 hp
      cases hm

/-- A point that names a merchant named it before, or it is the one that was linked for a job of
that merchant. -/
theorem Linked.point_link {job : Job} {r : Except Failure GeoPoint × Directory}
    (h : Linked job d r) {p : GeoPoint} {m : Int} (hp : p ∈ r.2.tables.points.rows)
    (hm : p.merchant = some m) :
    p ∈ d.tables.points.rows ∨
      (job.merchant = some m ∧ p.address = job.address ∧ p.source = job.source ∧
        ∃ q, r.1 = .ok q ∧ q.id = p.id) := by
  cases h with
  | refused e ls => exact .inl hp
  | loose q d' _ saved => exact .inl (saved.point_link hp hm)
  | held n q _ _ _ => exact .inl hp
  | adopted n q d' hn saved free =>
    obtain ⟨old, hold, hc⟩ := List.mem_map.1 hp
    rw [Table.changed] at hc
    split at hc
    · next hk =>
      obtain ⟨stored, hs, address, source⟩ := saved.stored
      have same := Table.get?_of_mem hold
      rw [hk, hs] at same
      cases same
      obtain rfl := hc
      exact .inr ⟨hn.trans hm, address, source, _, rfl, rfl⟩
    · exact .inl (saved.point_link (hc ▸ hold) hm)
  | reused n holder q own _ _ _ _ _ _ => exact .inl hp
  | copied n holder q recorded r hn record _ _ _ _ _ h =>
    subst h
    obtain hp | hp := List.mem_append.1 hp
    · exact .inl hp
    · obtain rfl := List.mem_singleton.1 hp
      obtain ⟨_, address, source⟩ := Tables.pointFor?_some record
      exact .inr ⟨hn.trans hm, address, source, _, rfl, rfl⟩

end Geocoding

theorem Tables.pointsOf_nodup (m : Int) (t : Tables) : (t.pointsOf m).Nodup :=
  ((Table.keys_nodup t.points).of_map key).filter _

theorem Tables.mem_pointsOf {m : Int} {p : GeoPoint} {t : Tables} :
    p ∈ t.pointsOf m ↔ p ∈ t.points.rows ∧ p.merchant = some m := by
  simp [pointsOf]

theorem Tables.countP_id_le (i : Int) (m : Int) (t : Tables) :
    (t.pointsOf m).countP (·.id == i) ≤ 1 := by
  have ids : ((t.pointsOf m).map key).Nodup :=
    (Table.keys_nodup t.points).sublist (List.filter_sublist.map key)
  have counted := List.nodup_iff_count_le_one.1 ids i
  rw [List.count, List.countP_map] at counted
  exact counted

/-- A link gives a merchant one point at most, and none when the job is not one of it. -/
theorem Geocoding.Linked.pointsOf_length {job : Job} {d : Directory}
    {r : Except Failure GeoPoint × Directory} (h : Linked job d r) (m : Int) :
    (r.2.tables.pointsOf m).length ≤
      (d.tables.pointsOf m).length + [job].countP (Job.isFor m) := by
  by_cases old : ∀ p ∈ r.2.tables.pointsOf m, p ∈ d.tables.pointsOf m
  · have := ((r.2.tables.pointsOf_nodup m).subperm old).length_le
    omega
  · -- the point that was not there has the id of the answer, and all others were there
    push Not at old
    obtain ⟨p, hp, new⟩ := old
    obtain ⟨mem, holder⟩ := Tables.mem_pointsOf.1 hp
    obtain old | ⟨own, _, _, q, hq, _⟩ := h.point_link mem holder
    · exact absurd (Tables.mem_pointsOf.2 ⟨old, holder⟩) new
    · have one := r.2.tables.countP_id_le q.id m
      have rest : ∀ p ∈ (r.2.tables.pointsOf m).filter (fun p => ¬(p.id == q.id) = true),
          p ∈ d.tables.pointsOf m := by
        intro p hp
        obtain ⟨hp, other⟩ := List.mem_filter.1 hp
        obtain ⟨mem, holder⟩ := Tables.mem_pointsOf.1 hp
        obtain old | ⟨_, _, _, q', hq', same⟩ := h.point_link mem holder
        · exact Tables.mem_pointsOf.2 ⟨old, holder⟩
        · rw [hq] at hq'
          cases hq'
          simp [same] at other
      have others := (((r.2.tables.pointsOf_nodup m).filter _).subperm rest).length_le
      rw [← List.countP_eq_length_filter] at others
      have parts : (r.2.tables.pointsOf m).length = _ :=
        List.length_eq_countP_add_countP fun p => p.id == q.id
      have isFor : job.isFor m = true := by simp [Job.isFor, own]
      rw [List.countP_singleton, if_pos isFor]
      omega

/-- No caller owns a merchant that is gone, so its points only become fewer. -/
theorem Writes.pointsOf_of_gone {e : Engine} {who : Principal} {t t' : Tables}
    (ws : Writes e who t t') {m : Int} (used : m ≤ t.merchants.last)
    (gone : t.merchants.get? m = none) {p : GeoPoint} (hp : p ∈ t'.pointsOf m) :
    p ∈ t.pointsOf m := by
  induction ws with
  | refl => exact hp
  | tail before w ih =>
    obtain ⟨mem, holder⟩ := Tables.mem_pointsOf.1 hp
    obtain old | ⟨r, hr, _⟩ := w.point_link mem holder
    · exact ih (Tables.mem_pointsOf.2 ⟨old, holder⟩)
    · have grown := Writes.keeps (fun _ _ w g => g.trans w.grows) (before.tail w) (Tables.Grows.refl t)
      rw [grown.merchants.get?_none used gone] at hr
      cases hr

/-- The merchant was deleted when `jobs` were in flight. Every point that it has is from one of its
own among them, and such a job that is still in flight has no point yet. -/
structure Departed (m : Int) (jobs : List Job) (d : Directory) : Prop where
  used : m ≤ d.tables.merchants.last
  gone : d.tables.merchants.get? m = none
  waiting : ∀ j ∈ d.queue, j.isFor m → j ∈ jobs
  origin : ∀ p ∈ d.tables.pointsOf m,
    ∃ j ∈ jobs, j.isFor m ∧ p.address = j.address ∧ p.source = j.source
  few : (d.tables.pointsOf m).length + d.queue.countP (Job.isFor m) ≤ jobs.countP (Job.isFor m)

namespace Departed

variable {m : Int} {jobs : List Job} {d d' : Directory}

theorem wrote {who : Principal} (h : Departed m jobs d) (w : Wrote who d d') :
    Departed m jobs d' := by
  have fewer : ∀ p ∈ d'.tables.pointsOf m, p ∈ d.tables.pointsOf m :=
    fun p hp => w.writes.pointsOf_of_gone h.used h.gone hp
  have length := ((d'.tables.pointsOf_nodup m).subperm fewer).length_le
  refine ⟨Int.le_trans h.used w.grows.merchants.last, w.grows.merchants.get?_none h.used h.gone,
    w.queue ▸ h.waiting, fun p hp => h.origin p (fewer p hp), ?_⟩
  have few := h.few
  rw [w.queue]
  omega

/-- A new merchant has another id. -/
theorem submits {who : Principal} {geocoding : Bool} {new : Merchant} (h : Departed m jobs d)
    (w : Wrote who d d') (id : new.id = d.tables.merchants.next) :
    Departed m jobs { d' with queue := d'.queue ++ Import.jobsOf geocoding new } := by
  have kept := h.wrote w
  have others : ∀ j ∈ Import.jobsOf geocoding new, j.isFor m = false := by
    intro j hj
    rw [Import.jobsOf] at hj
    split at hj
    · obtain rfl := List.mem_singleton.1 hj
      have ne : new.id ≠ m := by
        have := h.used
        rw [id, Table.next]
        omega
      simpa [Job.isFor, Import.job] using ne
    · cases hj
  refine ⟨kept.used, kept.gone, ?_, kept.origin, ?_⟩
  · intro j hj mine
    obtain hj | hj := List.mem_append.1 hj
    · exact kept.waiting j hj mine
    · rw [others j hj] at mine
      cases mine
  · have none : (Import.jobsOf geocoding new).countP (Job.isFor m) = 0 := by
      rw [List.countP_eq_zero]
      intro j hj
      simp [others j hj]
    rw [List.countP_append, none]
    exact kept.few

/-- A link that still has room for its point. -/
theorem linked {job : Job} {r : Except Failure GeoPoint × Directory} (h : Departed m jobs d)
    (l : Geocoding.Linked job d r) (mine : job.isFor m → job ∈ jobs)
    (room : (d.tables.pointsOf m).length + [job].countP (Job.isFor m) +
      d.queue.countP (Job.isFor m) ≤ jobs.countP (Job.isFor m)) : Departed m jobs r.2 where
  used := l.merchants ▸ h.used
  gone := l.merchants ▸ h.gone
  waiting := l.queue ▸ h.waiting
  origin := by
    intro p hp
    obtain ⟨mem, holder⟩ := Tables.mem_pointsOf.1 hp
    obtain old | ⟨own, address, source, _⟩ := l.point_link mem holder
    · exact h.origin p (Tables.mem_pointsOf.2 ⟨old, holder⟩)
    · have isFor : job.isFor m := by simp [Job.isFor, own]
      exact ⟨job, mine isFor, isFor, address, source⟩
  few := by
    have length := l.pointsOf_length m
    rw [l.queue]
    omega

/-- A job that is executed is in flight no longer, which makes room for its point. -/
theorem execute {moment : Timestamp} {chain : List Provider} {index : Nat} (h : Departed m jobs d) :
    Departed m jobs ((Step.execute moment chain index).take d) := by
  refine Step.execute_keeps h ?_
  intro job hj
  obtain ⟨place, rfl⟩ := List.getElem?_eq_some_iff.1 hj
  have fewer : (d.queue.eraseIdx index).Sublist d.queue := List.eraseIdx_sublist ..
  have counted : d.queue.countP (Job.isFor m) =
      (d.queue.eraseIdx index).countP (Job.isFor m) + [d.queue[index]].countP (Job.isFor m) := by
    rw [← (List.getElem_cons_eraseIdx_perm place).countP_eq, List.countP_cons,
      List.countP_singleton]
  have few := h.few
  have left : Departed m jobs { d with now := moment, queue := d.queue.eraseIdx index } :=
    ⟨h.used, h.gone, fun j hj => h.waiting j (fewer.subset hj), h.origin, by dsimp only; omega⟩
  refine left.linked (Geocoding.link_linked chain d.queue[index] _)
    (h.waiting _ (List.getElem_mem place)) ?_
  dsimp only
  omega

theorem take {s : Step} (h : Departed m jobs d)
    (others : ∀ t chain job, s = .call t → t.command = .geocoding (.link chain job) →
      job.merchant ≠ some m) : Departed m jobs (s.take d) := by
  cases s with
  | call t =>
    refine Turn.issue_keeps ?_ ?_ ?_ h
    · intro chain job d ht h
      have other : job.isFor m = false := by
        simpa [Job.isFor] using others t chain job rfl ht
      have none : [job].countP (Job.isFor m) = 0 := by simp [other]
      refine h.linked (Geocoding.link_linked chain job d) (by simp [other]) ?_
      rw [none]
      exact h.few
    · intro d d' w h
      exact h.wrote w
    · intro geocoding d d' new w id _ h
      exact h.submits w id
  | execute moment chain index => exact h.execute

end Departed

/-- Jobs are in flight while a merchant is deleted, and whatever comes then. Of the jobs one at most
is of the merchant. Its points and that job together are never more than this one, so the merchant
has no point when no job of it was in flight, none before the job is executed, and one at most
afterwards, with the address of the job and the source of imports. -/
theorem deleted_merchant_points (engine : Engine) (moment : Timestamp) (early late : List Step)
    (t : Turn) (m : Int) (ht : t.command = .merchants (.delete m))
    (others : ∀ t' chain job, .call t' ∈ late → t'.command = .geocoding (.link chain job) →
      job.merchant ≠ some m)
    (done : (t.issue (advance early (.empty engine moment))).1 = .ok .done) :
    let deleted := (t.issue (advance early (.empty engine moment))).2
    let final := advance late deleted
    deleted.queue.countP (Job.isFor m) ≤ 1 ∧
      (final.tables.pointsOf m).length + final.queue.countP (Job.isFor m) ≤
        deleted.queue.countP (Job.isFor m) ∧
      ∀ p ∈ final.tables.pointsOf m, ∃ j ∈ deleted.queue,
        j.isFor m ∧ p.address = j.address ∧ p.source = Import.source := by
  intro deleted final
  have issued : ∀ d, t.issue d = t.take d := by
    intro d
    rw [Turn.issue, Turn.take, ht]
    rfl
  rw [issued] at done
  obtain ⟨used, forgotten, same⟩ := delete_forgets ht done
  rw [← issued] at used forgotten same
  have numbered : Numbered deleted := by
    have before : Attainable (advance early (.empty engine moment)) := ⟨engine, moment, early, rfl⟩
    exact before.numbered.take (s := .call t)
  have none : deleted.tables.pointsOf m = [] := by
    rw [List.eq_nil_iff_forall_not_mem]
    intro p hp
    obtain ⟨mem, holder⟩ := Tables.mem_pointsOf.1 hp
    exact forgotten.points p mem holder
  have start : Departed m deleted.queue deleted := by
    refine ⟨used, forgotten.merchants, fun j hj _ => hj, ?_, ?_⟩
    · simp [none]
    · simp [none]
  have kept : Departed m deleted.queue final := by
    refine advance_keeps ?_ start
    intro s hs d h
    refine h.take ?_
    rintro t' chain job rfl ht'
    exact others t' chain job hs ht'
  refine ⟨numbered.countP_isFor_le m, kept.few, ?_⟩
  intro p hp
  obtain ⟨j, hj, mine, address, source⟩ := kept.origin p hp
  exact ⟨j, hj, mine, address, source.trans (numbered.imported j hj)⟩

theorem eq_done_of_matches {r : Except Failure Reply} (h : (r matches .ok .done) = true) :
    r = .ok .done := by
  split at h
  · rfl
  · cases h

/-- A bakery is imported, deleted while its address is not resolved yet, and then resolved. -/
theorem deleted_bakery_points :
    let chain := [Provider.fixed "map" [] fun a => .resolved ⟨116, 39, "house", 80, a, a, "map"⟩]
    let bytes := "title,address\nBakery,Main Street 1\n".toUTF8.toList
    let upload : ImportCommand := ⟨⟨.usual, true, fun _ => none⟩, true, bytes, [], .asSubmitted⟩
    let early : List Step := [.call ⟨⟨1, "ada"⟩, default, .importFile upload⟩]
    let delete : Turn := ⟨⟨1, "ada"⟩, default, .merchants (.delete 1)⟩
    let deleted := (delete.issue (advance early (.empty .memory default))).2
    let final := advance [.execute default chain 0] deleted
    (final.tables.pointsOf 1).length + final.queue.countP (Job.isFor 1) ≤
      deleted.queue.countP (Job.isFor 1) := by
  intro chain bytes upload early delete deleted final
  have done : (delete.issue (advance early (.empty .memory default))).1 = .ok .done :=
    eq_done_of_matches (by decide +kernel)
  have kept := deleted_merchant_points .memory default early [.execute default chain 0] delete 1 rfl
    (by simp) done
  exact kept.2.1

/-- The bakery is deleted, and afterwards it has a point. -/
theorem point_after_delete :
    let chain := [Provider.fixed "map" [] fun a => .resolved ⟨116, 39, "house", 80, a, a, "map"⟩]
    let bytes := "title,address\nBakery,Main Street 1\n".toUTF8.toList
    let upload : ImportCommand := ⟨⟨.usual, true, fun _ => none⟩, true, bytes, [], .asSubmitted⟩
    let early : List Step := [.call ⟨⟨1, "ada"⟩, default, .importFile upload⟩]
    let delete : Turn := ⟨⟨1, "ada"⟩, default, .merchants (.delete 1)⟩
    let deleted := (delete.issue (advance early (.empty .memory default))).2
    ((delete.issue (advance early (.empty .memory default))).1 matches .ok .done) = true ∧
      ((advance [.execute default chain 0] deleted).tables.pointsOf 1).length = 1 := by
  decide +kernel

end Gazetteer
