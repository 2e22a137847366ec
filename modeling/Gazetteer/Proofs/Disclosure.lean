import Gazetteer.Proofs.Writes
import Mathlib.Data.List.Forall2

/-!
# The calls on points disclose no merchant of others

A caller who works on points learns from the answers which points there are and which merchants are
the caller's own. Whether a merchant of somebody else is stored, who owns it and what is written in
it makes no difference to anything that the caller is told.

* `LooksSame`: tables, and directories, that differ at most in merchants of others.
* `Points.requireMerchant_eq`: access to the points of a merchant, as a question about own merchants.
* `SeenSame`: two outcomes that the caller cannot tell apart.
* `PointCommand.perform_seenSame`, `point_calls_disclose_nothing`: one call, and calls one after
  another.
-/

set_option autoImplicit false

namespace Gazetteer

/-! ## What looks the same -/

namespace Tables

/-- The tables are the same but for merchants of others. The last id given out is the same too, so
that new merchants have the same ids. -/
structure LooksSame (who : Principal) (t t' : Tables) : Prop where
  merchants : t.ownMerchants who = t'.ownMerchants who
  last : t.merchants.last = t'.merchants.last
  tags : t.tags = t'.tags
  points : t.points = t'.points
  relations : t.relations = t'.relations
  favorites : t.favorites = t'.favorites

variable {who : Principal} {t t' : Tables}

theorem LooksSame.setPoints (h : t.LooksSame who t') (ps : Table GeoPoint) :
    { t with points := ps }.LooksSame who { t' with points := ps } :=
  ⟨h.merchants, h.last, h.tags, rfl, h.relations, h.favorites⟩

end Tables

/-- The directories are kept by the same engine, and their tables look the same. -/
structure Directory.LooksSame (who : Principal) (d d' : Directory) : Prop where
  engine : d.engine = d'.engine
  tables : d.tables.LooksSame who d'.tables

/-- Both outcomes have the same answer and announce the same events on top of what was announced
before, and the directories still look the same. -/
structure SeenSame {α : Type} (who : Principal) (d d' : Directory)
    (x y : Except Failure α × Directory) : Prop where
  answer : x.1 = y.1
  events : ∃ es, x.2.events = d.events ++ es ∧ y.2.events = d'.events ++ es
  state : x.2.LooksSame who y.2

namespace SeenSame

variable {α β : Type} {who : Principal} {d d' : Directory}

/-- An outcome that left the directory alone. -/
theorem idle (h : d.LooksSame who d') (r : Except Failure α) : SeenSame who d d' (r, d) (r, d') :=
  ⟨rfl, ⟨[], (List.append_nil _).symm, (List.append_nil _).symm⟩, h⟩

/-- An outcome that put other points into the tables and announced it. -/
theorem after (h : d.LooksSame who d') (a : α) (ps : Table GeoPoint) (kind : EventKind)
    (payload : EventPayload) :
    SeenSame who d d' (.ok a, d.after { d.tables with points := ps } kind payload who)
      (.ok a, d'.after { d'.tables with points := ps } kind payload who) :=
  ⟨rfl, ⟨[_], rfl, rfl⟩, h.engine, h.tables.setPoints ps⟩

theorem check (h : d.LooksSame who d') {f : Directory → Except Failure α} (same : f d = f d') :
    SeenSame who d d' (Action.check f d) (Action.check f d') := by
  rw [Action.check_apply, Action.check_apply, ← same]
  exact idle h (f d)

/-- One decision in both directories, and effects that cannot be told apart. -/
theorem guarded (h : d.LooksSame who d') {decision : Directory → Except Failure α}
    {effect : α → Directory → β × Directory} (same : decision d = decision d')
    (effects : ∀ a, SeenSame who d d' (.ok (effect a d).1, (effect a d).2)
      (.ok (effect a d').1, (effect a d').2)) :
    SeenSame who d d' (Action.guarded decision effect d)
      (Action.guarded decision effect d') := by
  rw [Action.guarded, Action.guarded, ← same]
  cases decision d with
  | error e => exact idle h (.error e)
  | ok a => exact effects a

theorem map (f : α → β) {x y : Action α} (h : SeenSame who d d' (x d) (y d')) :
    SeenSame who d d' ((f <$> x) d) ((f <$> y) d') := by
  rw [Action.map_apply, Action.map_apply]
  exact ⟨congrArg (Except.map f) h.answer, h.events, h.state⟩

/-- What is seen from the directories in between is seen from the first ones. -/
theorem trans {x y : Except Failure α × Directory} {z w : Except Failure β × Directory}
    (first : SeenSame who d d' x y) (second : SeenSame who x.2 y.2 z w) :
    SeenSame who d d' z w := by
  obtain ⟨es, left, right⟩ := first.events
  obtain ⟨es', left', right'⟩ := second.events
  refine ⟨second.answer, ⟨es ++ es', ?_, ?_⟩, second.state⟩
  · rw [left', left, List.append_assoc]
  · rw [right', right, List.append_assoc]

end SeenSame

/-! ## Decisions -/

namespace Points

variable {who : Principal} {t t' : Tables}

/-- A merchant that is not there is refused like one of somebody else. -/
theorem requireMerchant_eq (who : Principal) (id : Int) (t : Tables) :
    requireMerchant who id t =
      if ∃ m ∈ t.ownMerchants who, m.id = id then .ok () else .error (.accessDenied "merchant") := by
  rw [requireMerchant, Merchants.ownedIn]
  have found : ∀ m ∈ t.ownMerchants who, m.id = id → t.merchants.get? id = some m := by
    rintro m hm rfl
    exact Table.get?_of_mem (List.mem_filter.1 hm).1
  cases hm : t.merchants.get? id with
  | none =>
    rw [if_neg]
    rintro ⟨m, own, here⟩
    cases hm.symm.trans (found m own here)
  | some m =>
    by_cases owned : m.isOwnedBy who = true
    · have own : m ∈ t.ownMerchants who := List.mem_filter.2 ⟨Table.mem_of_get? hm, owned⟩
      rw [if_pos ⟨m, own, Table.key_of_get? hm⟩]
      simp only [owned, if_true]
    · rw [if_neg]
      · simp only [owned, if_false, Bool.false_eq_true]
      · rintro ⟨m', own, here⟩
        cases hm.symm.trans (found m' own here)
        exact owned (List.mem_filter.1 own).2

theorem requireMerchant_same (h : t.LooksSame who t') (id : Int) :
    requireMerchant who id t = requireMerchant who id t' := by
  rw [requireMerchant_eq, requireMerchant_eq, h.merchants]

theorem accessibleIn_same (h : t.LooksSame who t') (id : Int) :
    accessibleIn who id t = accessibleIn who id t' := by
  simp only [accessibleIn, ← h.points, requireMerchant_same h]

theorem admitCreate_same (h : t.LooksSame who t') (draft : GeoPointDraft) :
    admitCreate who draft t = admitCreate who draft t' := by
  simp only [admitCreate, requireMerchant_same h]

theorem admitUpdate_same (h : t.LooksSame who t') (id : Int) (draft : GeoPointDraft) :
    admitUpdate who id draft t = admitUpdate who id draft t' := by
  simp only [admitUpdate, accessibleIn_same h, requireTarget, requireMerchant_same h]

end Points

/-! ## Calls -/

/-- One call at one moment, whatever it is and whether or not it succeeds. -/
theorem PointCommand.perform_seenSame {who : Principal} {d d' : Directory}
    (h : d.LooksSame who d') (clock : d.now = d'.now) (c : PointCommand) :
    SeenSame who d d' (c.perform who d) (c.perform who d') := by
  have engine := h.engine
  have points := h.tables.points
  cases c with
  | create draft =>
    refine SeenSame.map _ ?_
    rw [Points.create_eq]
    refine .guarded h (Points.admitCreate_same h.tables draft) fun _ => ?_
    simp only [Tables.insertPoint, ← engine, ← points, ← clock]
    exact .after h ..
  | find id =>
    refine SeenSame.map _ ?_
    exact SeenSame.check (f := fun d => Points.accessibleIn who id d.tables) h
      (Points.accessibleIn_same h.tables id)
  | list merchant search paging =>
    refine SeenSame.map _ (.check h ?_)
    simp only [Points.requireMerchant_same h.tables, Tables.findPoints, Tables.pointsOf, ← engine,
      ← points]
  | update id draft =>
    refine SeenSame.map _ ?_
    rw [Points.update_eq]
    refine .guarded h (Points.admitUpdate_same h.tables id draft) fun p => ?_
    simp only [Tables.updatePoint, ← engine, ← points, ← clock]
    exact .after h ..
  | delete id =>
    refine SeenSame.map _ ?_
    rw [Points.delete_eq]
    refine .guarded h (Points.accessibleIn_same h.tables id) fun p => ?_
    simp only [Tables.deletePoint, ← points]
    exact .after h ..

/-- Calls of one caller on points, each with its moment. -/
def pointTurns (who : Principal) (calls : List (Timestamp × PointCommand)) : List Turn :=
  calls.map fun c => ⟨who, c.1, .points c.2⟩

/-- Merchants of others may be there in one directory and not in the other one, with any owner but
the caller and any content: whatever the caller asks about points one call after another, all answers
are the same, and so is all that is announced. -/
theorem point_calls_disclose_nothing (who : Principal) (d d' : Directory)
    (same : d.LooksSame who d') (calls : List (Timestamp × PointCommand)) :
    List.Forall₂ (SeenSame who d d') (trace (pointTurns who calls) d)
      (trace (pointTurns who calls) d') := by
  induction calls generalizing d d' with
  | nil => exact .nil
  | cons c rest ih =>
    have first : SeenSame who d d' ((Turn.mk who c.1 (.points c.2)).take d)
        ((Turn.mk who c.1 (.points c.2)).take d') := by
      have clocked : Directory.LooksSame who { d with now := c.1 } { d' with now := c.1 } :=
        ⟨same.engine, same.tables⟩
      have seen := c.2.perform_seenSame clocked rfl
      exact ⟨seen.answer, seen.events, seen.state⟩
    refine .cons first ((ih _ _ first.state).imp ?_)
    intro x y later
    exact first.trans later

/-- A bakery of somebody else is there, or was removed again: who tries to put a point on it and to
list its points cannot tell. -/
theorem foreign_bakery_undisclosed :
    let ada : Principal := ⟨1, "ada"⟩
    let bakery : MerchantFields := { MerchantFields.blank with title := "Bakery" }
    let merchants : Table Merchant := Table.empty.insert (.ofFields default bakery 2)
    let empty := Directory.empty .memory default
    let d := { empty with tables := { Tables.empty with merchants := merchants } }
    let d' := { empty with tables := { Tables.empty with merchants := merchants.erase 1 } }
    let calls : List (Timestamp × PointCommand) :=
      [(default, .create ⟨some 1, "manual", 0, 0, "Main Street 1", 50, ""⟩),
        (default, .list 1 "" .all)]
    d.tables.merchants.rows.length = 1 ∧ d'.tables.merchants.rows.length = 0 ∧
      d.LooksSame ada d' ∧
      List.Forall₂ (SeenSame ada d d') (trace (pointTurns ada calls) d)
        (trace (pointTurns ada calls) d') := by
  intro ada bakery merchants empty d d' calls
  have same : d.LooksSame ada d' := ⟨rfl, rfl, rfl, rfl, rfl, rfl, rfl⟩
  exact ⟨rfl, rfl, same, point_calls_disclose_nothing ada d d' same calls⟩

end Gazetteer
