import Gazetteer.Proofs.Deletion

/-!
# What jobs see

A job in the background sees and changes the points and the record of the lookups. It comes to the
same whatever else happened to the directory, and it leaves the points of other merchants alone.

* `Directory.graft`: a directory with the points and the lookups of another one.
* `Action.Local`: a call that sees and changes the points and the lookups only.
* `runJobs_local`: jobs are of this kind.
* `Linked.pointsOf_of_ne`, `runJobs_pointsOf`: the points of other merchants.
-/

set_option autoImplicit false

namespace Gazetteer

/-! ## Calls on points and lookups -/

namespace Directory

/-- The directory with the points and the lookups of another one. -/
def graft (base d : Directory) : Directory :=
  { base with tables := { base.tables with points := d.tables.points }, lookups := d.lookups }

/-- The directories are of one engine, and it is the same moment. -/
def Beside (base d : Directory) : Prop := base.engine = d.engine ∧ base.now = d.now

end Directory

namespace Action

variable {α β : Type}

/-- A call that sees and changes the points and the lookups only. -/
structure Local (x : Action α) : Prop where
  graft : ∀ base d : Directory, base.Beside d → x (base.graft d) = ((x d).1, base.graft (x d).2)
  beside : ∀ d : Directory, (x d).2.Beside d

namespace Local

theorem frame {x : Action α} (h : Local x) (d : Directory) : (x d).2 = d.graft (x d).2 :=
  congrArg Prod.snd (h.graft d d ⟨rfl, rfl⟩)

/-- A call that answers without looking. -/
theorem of_answer (r : Except Failure α) : Local fun d => (r, d) where
  graft _ _ _ := rfl
  beside _ := ⟨rfl, rfl⟩

theorem pure (a : α) : Local (Pure.pure a) := of_answer (.ok a)

theorem fail (e : Failure) : Local (Action.fail e : Action α) := of_answer (.error e)

theorem ofExcept (r : Except Failure α) : Local (Action.ofExcept r) := of_answer r

theorem read {f : Directory → α} (same : ∀ base d : Directory, f (base.graft d) = f d) :
    Action.Local (Action.read f) where
  graft base d _ := by
    rw [read_apply, read_apply, same]
  beside _ := ⟨rfl, rfl⟩

theorem bind {x : Action α} {f : α → Action β} (hx : Local x) (hf : ∀ a, Local (f a)) :
    Action.Local (x >>= f) where
  graft base d beside := by
    have first := hx.graft base d beside
    have after := hx.beside d
    rw [bind_apply, bind_apply, first]
    cases hr : x d with
    | mk r d₁ =>
      rw [hr] at after
      cases r with
      | error e => rfl
      | ok a =>
        have still : base.Beside d₁ :=
          ⟨beside.1.trans after.1.symm, beside.2.trans after.2.symm⟩
        exact (hf a).graft base d₁ still
  beside d := by
    have after := hx.beside d
    rw [bind_apply]
    cases hr : x d with
    | mk r d₁ =>
      rw [hr] at after
      cases r with
      | error e => exact after
      | ok a =>
        have last := (hf a).beside d₁
        exact ⟨last.1.trans after.1, last.2.trans after.2⟩

theorem attempt {x : Action α} (hx : Local x) : Local (Action.attempt x) where
  graft base d beside := by
    rw [attempt_apply, attempt_apply, hx.graft base d beside]
  beside := hx.beside

end Local

end Action

namespace Geocoding

theorem ask_local (p : Provider) (address : String) : Action.Local (ask p address) where
  graft _ _ _ := rfl
  beside _ := ⟨rfl, rfl⟩

theorem askInOrder_local (address : String) (last : Option (String × LookupFailure))
    (chain : List Provider) : Action.Local (askInOrder address last chain) := by
  induction chain generalizing last with
  | nil => exact .fail _
  | cons p rest ih =>
    refine .bind (ask_local p address) ?_
    intro answer
    cases answer with
    | resolved r => exact .pure r
    | failed e => exact ih _
    | crashed => exact .fail _

theorem resolve_local (chain : List Provider) (address : String) :
    Action.Local (resolve chain address) :=
  .bind (.ofExcept _) fun _ => askInOrder_local address none chain

theorem addPoint_local (draft : GeoPointDraft) : Action.Local (addPoint draft) where
  graft base d beside := by
    obtain ⟨engine, now⟩ := beside
    rw [addPoint_eq, Action.guarded, Action.guarded]
    cases draft.check with
    | error e => rfl
    | ok _ =>
      simp only [Directory.graft, engine, now]
      rfl
  beside d := by
    rw [addPoint_eq]
    exact Action.guarded_keeps (P := fun d' => d'.Beside d) ⟨rfl, rfl⟩ fun _ _ => ⟨rfl, rfl⟩

theorem save_local (chain : List Provider) (address source : String)
    (metadata : Option Json.Object) : Action.Local (save chain address source metadata) := by
  refine .bind (.ofExcept _) fun _ => .bind (.read fun _ _ => rfl) ?_
  intro known
  cases known with
  | some point => exact .pure point
  | none => exact .bind (resolve_local chain address) fun _ => addPoint_local _

theorem copyFor_local (merchant : Int) (metadata : Option Json.Object) (p : GeoPoint) :
    Action.Local (copyFor merchant metadata p) := by
  refine .bind (.read fun _ _ => rfl) ?_
  intro own
  cases own.find? fun q => q.address == p.address && q.source == p.source with
  | some point => exact .pure point
  | none => exact .bind (.ofExcept _) fun _ => addPoint_local _

theorem setPointMerchant_local (id : Int) (merchant : Option Int) :
    Action.Local (.change fun _ t => t.setPointMerchant id merchant) where
  graft _ _ _ := rfl
  beside _ := ⟨rfl, rfl⟩

theorem link_local (chain : List Provider) (job : Job) : Action.Local (link chain job) := by
  refine .bind (save_local chain _ _ _) ?_
  intro point
  cases job.merchant with
  | none => exact .pure point
  | some merchant =>
    cases point.merchant with
    | none => exact .bind (setPointMerchant_local _ _) fun _ => .pure _
    | some holder =>
      dsimp only
      split
      · exact .pure point
      · exact copyFor_local merchant _ point

theorem runJobs_local (chain : List Provider) (jobs : List Job) :
    Action.Local (runJobs chain jobs) := by
  induction jobs with
  | nil => exact .pure ()
  | cons job rest ih =>
    exact .bind (.bind (.attempt (link_local chain job)) fun _ => .pure ()) fun _ => ih

theorem runJobs_append (chain : List Provider) (front back : List Job) (d : Directory) :
    (runJobs chain (front ++ back) d).2 = (runJobs chain back (runJobs chain front d).2).2 := by
  induction front generalizing d with
  | nil => rfl
  | cons job rest ih =>
    rw [List.cons_append, runJobs, runJobs, Action.bind_of_ok (runJob_apply chain job d),
      Action.bind_of_ok (runJob_apply chain job d), ih]

/-! ## The points of other merchants -/

variable {d : Directory}

theorem Saved.pointsOf {address source : String} {metadata : Json.Object}
    {r : Except Failure GeoPoint × Directory} (h : Saved address source metadata d r) (n : Int) :
    r.2.tables.pointsOf n = d.tables.pointsOf n := by
  cases h with
  | refused e ls => rfl
  | onRecord p _ => rfl
  | added answer ls r _ _ h =>
    subst h
    exact Table.filter_insert d.tables.points _ rfl

/-- A point that nobody holds after it was saved is stored as such. -/
theorem Saved.free {address source : String} {metadata : Json.Object} {d' : Directory}
    {p : GeoPoint} (h : Saved address source metadata d (.ok p, d')) (free : p.merchant = none) :
    ∃ q, d'.tables.points.get? p.id = some q ∧ q.merchant = none := by
  cases h with
  | onRecord _ record =>
    exact ⟨p, Table.get?_of_mem (List.mem_of_find?_eq_some record), free⟩
  | added answer ls r _ _ h =>
    subst h
    exact ⟨_, Table.get?_insert_self d.tables.points _, rfl⟩

theorem Linked.pointsOf_of_ne {job : Job} {r : Except Failure GeoPoint × Directory}
    (h : Linked job d r) {n : Int} (other : job.merchant ≠ some n) :
    r.2.tables.pointsOf n = d.tables.pointsOf n := by
  cases h with
  | refused e ls => rfl
  | loose p d' _ saved => exact saved.pointsOf n
  | held m p _ _ _ => rfl
  | adopted m p d' hm saved free =>
    refine Eq.trans ?_ (saved.pointsOf n)
    refine Table.filter_modify d'.tables.points p.id _ ?_
    intro q stored
    obtain ⟨q', stored', nobody⟩ := saved.free free
    cases stored.symm.trans stored'
    have target : some m ≠ some n := hm ▸ other
    exact ⟨by simp [nobody], decide_eq_false target⟩
  | reused m holder p q _ _ _ _ _ _ => rfl
  | copied m holder p recorded r hm _ _ _ _ _ _ h =>
    subst h
    have target : some m ≠ some n := hm ▸ other
    exact Table.filter_insert d.tables.points _ (decide_eq_false target)

theorem runJobs_pointsOf (chain : List Provider) {jobs : List Job} {n : Int}
    (others : ∀ job ∈ jobs, job.merchant ≠ some n) (d : Directory) :
    (runJobs chain jobs d).2.tables.pointsOf n = d.tables.pointsOf n := by
  induction jobs generalizing d with
  | nil => rfl
  | cons job rest ih =>
    rw [runJobs, Action.bind_of_ok (runJob_apply chain job d),
      ih fun j hj => others j (List.mem_cons_of_mem _ hj)]
    exact (link_linked chain job d).pointsOf_of_ne (others job List.mem_cons_self)

end Geocoding

end Gazetteer
