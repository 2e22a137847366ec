import Gazetteer.Proofs.Effects

/-!
# What calls leave alone

The steps of a call each touch one column of the tables, and a call on points or addresses touches
the points only.

* `runJobs_repoints`, `PointCommand.perform_repoints`, ...: calls that touch the points only.
* `enroll_columns`, `rewrite_columns`: what a creation and an update make of each column.
-/

set_option autoImplicit false

namespace Gazetteer

/-! ## Calls on points and addresses -/

namespace Geocoding

variable {d : Directory}

theorem runJobs_repoints (chain : List Provider) (jobs : List Job) (d : Directory) :
    d.tables.Repoints (runJobs chain jobs d).2.tables := by
  refine runJobs_keeps (P := fun d' => d.tables.Repoints d'.tables) ?_ jobs (.refl _)
  intro job d' before
  exact before.trans (link_linked chain job d').repoints

end Geocoding

theorem GeocodingCommand.perform_repoints (c : GeocodingCommand) (d : Directory) :
    d.tables.Repoints (c.perform d).2.tables := by
  cases c <;> rw [perform, map_snd]
  case resolve chain address =>
    obtain ⟨r, ls, h⟩ := Geocoding.resolve_asks chain address d
    rw [h]
    exact .refl _
  case save chain address source metadata =>
    exact (Geocoding.save_saved chain address source metadata d).repoints
  case link chain job => exact (Geocoding.link_linked chain job d).repoints
  case batch chain source addresses =>
    refine Geocoding.batch_keeps (P := fun d' => d.tables.Repoints d'.tables) ?_ addresses (.refl _)
    intro address d' before
    exact before.trans (Geocoding.save_saved chain address source none d').repoints
  case nearby longitude latitude radius limit =>
    obtain ⟨r, h⟩ := Geocoding.nearby_looks longitude latitude radius limit d
    rw [h]
    exact .refl _

theorem PointCommand.perform_repoints (who : Principal) (c : PointCommand) (d : Directory) :
    d.tables.Repoints (c.perform who d).2.tables := by
  let P : Directory → Prop := fun d' => d.tables.Repoints d'.tables
  have start : P d := .refl _
  cases c <;> rw [perform, map_snd]
  case create draft =>
    rw [Points.create_eq]
    exact Action.guarded_keeps start fun _ _ => rfl
  case find id => exact start
  case list merchant search paging => exact start
  case update id draft =>
    rw [Points.update_eq]
    exact Action.guarded_keeps start fun _ _ => rfl
  case delete id =>
    rw [Points.delete_eq]
    exact Action.guarded_keeps start fun _ _ => rfl

/-! ## Creations and updates of merchants -/

namespace Tables

variable {e : Engine} {who : Principal} {t : Tables}

theorem mark_eq (user id : Int) (mark : Option Bool) (t : Tables) :
    t.mark user id mark = { t with favorites := (t.mark user id mark).favorites } := by
  cases mark with
  | none => rfl
  | some b =>
    cases b with
    | true => exact addFavorite_eq user id t
    | false => rfl

theorem movePoints_points (target : Option Int) (ids : List Int) {t t' : Tables}
    (h : t.points = t'.points) : (t.movePoints target ids).points =
      (t'.movePoints target ids).points := by
  induction ids generalizing t t' with
  | nil => exact h
  | cons i rest ih =>
    have first : (t.setPointMerchant i target).points = (t'.setPointMerchant i target).points :=
      congrArg (fun points => points.modify i fun p => { p with merchant := target }) h
    exact ih first

theorem repoint_points (id : Int) (points : Option (List Int)) {t t' : Tables}
    (h : t.points = t'.points) : (t.repoint id points).points = (t'.repoint id points).points := by
  cases points with
  | none => exact h
  | some ids =>
    rw [repoint, repoint, releasePoints_eq, releasePoints_eq, pointsOf, pointsOf, h]
    exact movePoints_points _ _ (movePoints_points _ _ h)

/-- What a creation makes of each column. -/
theorem enroll_columns (now : Timestamp) (draft : MerchantDraft) :
    (t.enroll e now who draft).2 =
      { merchants := (t.insertMerchant e (.ofFields now draft.fields who.id)).2.merchants
        tags := t.tags
        points := (t.movePoints (some t.merchants.next) draft.pointIds).points
        relations := (t.linkTags now t.merchants.next draft.tagIds).relations
        favorites := (t.enter e now who draft).favorites } := by
  have moved := movePoints_repoints (some t.merchants.next) draft.pointIds
    ((t.enter e now who draft).linkTags now t.merchants.next draft.tagIds)
  have points : ((t.enter e now who draft).linkTags now t.merchants.next draft.tagIds).points =
      t.points := by
    rw [linkTags_eq, enter_eq]
    rfl
  rw [enroll_eq, moved, movePoints_points _ _ points, linkTags_eq, linkTags_eq, enter_eq]
  rfl

/-- What an update makes of each column. -/
theorem rewrite_columns (now : Timestamp) (id : Int) (u : MerchantUpdate) (m : Merchant) :
    t.rewrite e now who id u m =
      { merchants := (t.updateMerchant e m).merchants
        tags := t.tags
        points := (t.repoint id u.pointIds).points
        relations := (t.retag now id u.tagIds).relations
        favorites := (t.rewrite e now who id u m).favorites } := by
  have moved := repoint_repoints id u.pointIds ((t.updateMerchant e m).retag now id u.tagIds)
  have points : ((t.updateMerchant e m).retag now id u.tagIds).points = t.points := by
    rw [retag_eq]
    rfl
  have relations : ((t.updateMerchant e m).retag now id u.tagIds).relations =
      (t.retag now id u.tagIds).relations := by
    cases u.tagIds with
    | none => rfl
    | some ids =>
      rw [retag, retag, linkTags_eq, linkTags_eq]
      rfl
  rw [rewrite, mark_eq, moved, repoint_points _ _ points, retag_eq, relations]
  rfl

end Tables

end Gazetteer
