import Gazetteer.Proofs.Commands

/-!
# Calls decide before they write

Every call on merchants, tags and points other than geocoding on demand is a decision over the
directory followed by an effect that cannot fail. So each of them is written here in one form.

* `Action.guarded`: a decision and an effect.
* `Tables.enroll`, `Tables.rewrite`, `Tables.expel`: what the calls on merchants do to the tables.
* `create_eq`, `update_eq`, ...: each call as its decision and its effect.
-/

set_option autoImplicit false

namespace Gazetteer

/-! ## Decision and effect -/

namespace Action

variable {α β : Type}

/-- A call that decides first; an effect follows only what was decided well, and does not fail. -/
def guarded (decision : Directory → Except Failure α) (effect : α → Directory → β × Directory) :
    Action β := fun d =>
  match decision d with
  | .ok a => (.ok (effect a d).1, (effect a d).2)
  | .error e => (.error e, d)

theorem guarded_of_ok {decision : Directory → Except Failure α}
    {effect : α → Directory → β × Directory} {d : Directory} {a : α} (h : decision d = .ok a) :
    guarded decision effect d = (.ok (effect a d).1, (effect a d).2) := by
  rw [guarded, h]

theorem guarded_of_error {decision : Directory → Except Failure α}
    {effect : α → Directory → β × Directory} {d : Directory} {e : Failure}
    (h : decision d = .error e) : guarded decision effect d = (.error e, d) := by
  rw [guarded, h]

/-- A guarded call either was refused and left everything alone, or had its effect. -/
theorem guarded_cases (decision : Directory → Except Failure α)
    (effect : α → Directory → β × Directory) (d : Directory) :
    (∃ e, decision d = .error e ∧ guarded decision effect d = (.error e, d)) ∨
    ∃ a, decision d = .ok a ∧
      guarded decision effect d = (.ok (effect a d).1, (effect a d).2) := by
  cases h : decision d with
  | error e => exact .inl ⟨e, rfl, guarded_of_error h⟩
  | ok a => exact .inr ⟨a, rfl, guarded_of_ok h⟩

/-- What a guarded call answers when it is not refused, and what it leaves. -/
theorem guarded_eq_ok {decision : Directory → Except Failure α}
    {effect : α → Directory → β × Directory} {d d' : Directory} {b : β}
    (h : guarded decision effect d = (.ok b, d')) :
    ∃ a, decision d = .ok a ∧ b = (effect a d).1 ∧ d' = (effect a d).2 := by
  obtain ⟨e, _, refused⟩ | ⟨a, ok, done⟩ := guarded_cases decision effect d
  · cases refused.symm.trans h
  · cases done.symm.trans h
    exact ⟨a, ok, rfl, rfl⟩

/-- A guarded call that fails was refused. -/
theorem guarded_eq_error {decision : Directory → Except Failure α}
    {effect : α → Directory → β × Directory} {d d' : Directory} {e : Failure}
    (h : guarded decision effect d = (.error e, d')) : decision d = .error e ∧ d' = d := by
  obtain ⟨e', same, refused⟩ | ⟨a, _, done⟩ := guarded_cases decision effect d
  · cases refused.symm.trans h
    exact ⟨same, rfl⟩
  · cases done.symm.trans h

/-- What holds of the directory and after the effect of every decision holds after the call. -/
theorem guarded_keeps {P : Directory → Prop} {decision : Directory → Except Failure α}
    {effect : α → Directory → β × Directory} {d : Directory} (start : P d)
    (h : ∀ a, decision d = .ok a → P (effect a d).2) : P (guarded decision effect d).2 := by
  obtain ⟨e, _, refused⟩ | ⟨a, ok, done⟩ := guarded_cases decision effect d
  · rw [refused]
    exact start
  · rw [done]
    exact h a ok

theorem check_eq (f : Directory → Except Failure α) :
    check f = guarded f fun a d => (a, d) := by
  funext d
  rw [guarded, check_apply]
  cases f d <;> rfl

theorem map_eq_ok {f : α → β} {x : Action α} {d d' : Directory} {b : β}
    (h : (f <$> x) d = (.ok b, d')) : ∃ a, x d = (.ok a, d') ∧ f a = b := by
  rw [map_apply] at h
  cases hx : x d with
  | mk r d₁ =>
    rw [hx] at h
    cases r with
    | error e => cases h
    | ok a =>
      cases h
      exact ⟨a, rfl, rfl⟩

end Action

/-! ## Decisions of several parts -/

theorem ok_bind {α β : Type} (a : α) (f : α → Except Failure β) : (.ok a >>= f) = f a := rfl

theorem bind_eq_ok {ε α β : Type} {x : Except ε α} {f : α → Except ε β} {b : β}
    (h : (x >>= f) = .ok b) : ∃ a, x = .ok a ∧ f a = .ok b := by
  cases x with
  | ok a => exact ⟨a, rfl, h⟩
  | error e => cases h

theorem exists_bind_ok {ε α β : Type} {x : Except ε α} {f : α → Except ε β} :
    (∃ b, (x >>= f) = .ok b) ↔ ∃ a, x = .ok a ∧ ∃ b, f a = .ok b := by
  constructor
  · rintro ⟨b, h⟩
    obtain ⟨a, first, second⟩ := bind_eq_ok h
    exact ⟨a, first, b, second⟩
  · rintro ⟨a, rfl, b, h⟩
    exact ⟨b, h⟩

theorem exists_map_ok {ε α β : Type} {x : Except ε α} {f : α → β} :
    (∃ b, x.map f = .ok b) ↔ ∃ a, x = .ok a := by
  cases x <;> simp [Except.map]

theorem ok_of_map {ε α β : Type} {f : α → β} {x : Except ε α} {b : β} (h : x.map f = .ok b) :
    ∃ a, x = .ok a ∧ f a = b := by
  cases x with
  | error e => cases h
  | ok a =>
    cases h
    exact ⟨a, rfl, rfl⟩

theorem error_of_map {ε α β : Type} {f : α → β} {x : Except ε α} {e : ε}
    (h : x.map f = .error e) : x = .error e := by
  cases x with
  | error e' =>
    cases h
    rfl
  | ok a => cases h

theorem Action.map_eq_error {α β : Type} {f : α → β} {x : Action α} {d d' : Directory}
    {e : Failure} (h : (f <$> x) d = (.error e, d')) : x d = (.error e, d') := by
  rw [map_apply] at h
  obtain ⟨answer, state⟩ := Prod.mk.inj h
  exact Prod.ext (error_of_map answer) state

theorem ok_of_isOk {ε α : Type} {x : Except ε α} (h : x.isOk = true) : ∃ a, x = .ok a := by
  cases x with
  | error e => cases h
  | ok a => exact ⟨a, rfl⟩

theorem ok_of_toOption {ε α : Type} {x : Except ε α} {a : α} (h : x.toOption = some a) :
    x = .ok a := by
  cases x with
  | error e => cases h
  | ok b => exact congrArg Except.ok (Option.some.inj h)

theorem ok_of_toOption_map {ε α β : Type} {f : α → β} {x : Except ε α} {b : β}
    (h : x.toOption.map f = some b) : ∃ a, x = .ok a ∧ f a = b := by
  obtain ⟨a, ha, same⟩ := Option.map_eq_some_iff.1 h
  exact ⟨a, ok_of_toOption ha, same⟩

/-! ## What the calls on merchants do to the tables -/

namespace Tables

/-- Adds a merchant with its tags and its points, and marks it if it is a favorite. -/
def enroll (e : Engine) (now : Timestamp) (who : Principal) (draft : MerchantDraft) (t : Tables) :
    Merchant × Tables :=
  let (m, t) := t.insertMerchant e (.ofFields now draft.fields who.id)
  let t := if draft.isFavorite then t.addFavorite who.id m.id else t
  (m, (t.linkTags now m.id draft.tagIds).holdPoints m.id draft.pointIds)

def retag (now : Timestamp) (id : Int) (tags : Option (List Int)) (t : Tables) : Tables :=
  match tags with
  | none => t
  | some ids => (t.deleteRelationsOfMerchant id).linkTags now id ids

def repoint (id : Int) (points : Option (List Int)) (t : Tables) : Tables :=
  match points with
  | none => t
  | some ids => (t.releasePoints id ids).holdPoints id ids

def mark (user id : Int) (mark : Option Bool) (t : Tables) : Tables :=
  match mark with
  | none => t
  | some true => t.addFavorite user id
  | some false => t.removeFavorite user id

/-- Writes over a merchant, and replaces what the update replaces. -/
def rewrite (e : Engine) (now : Timestamp) (who : Principal) (id : Int) (u : MerchantUpdate)
    (m : Merchant) (t : Tables) : Tables :=
  (((t.updateMerchant e m).retag now id u.tagIds).repoint id u.pointIds).mark who.id id u.isFavorite

/-- Removes a merchant with everything that refers to it. -/
def expel (id : Int) (t : Tables) : Tables :=
  (((t.deleteRelationsOfMerchant id).deletePointsOf id).removeFavoritesOf id).deleteMerchant id

end Tables

namespace Directory

/-- The directory with other tables and one more event. -/
def after (d : Directory) (tables : Tables) (kind : EventKind) (payload : EventPayload)
    (who : Principal) : Directory :=
  { d with tables := tables, events := d.events ++ [⟨kind, payload, who⟩] }

/-- The directory with other tables, in which a merchant was announced, and what was announced. -/
def announcing (kind : EventKind) (who : Principal) (m : Merchant) (tables : Tables)
    (d : Directory) : Merchant × Directory :=
  (tables.detailed who m, d.after tables kind (.merchant (tables.detailed who m)) who)

end Directory

/-! ## The calls on merchants -/

namespace Merchants

/-- The caller may create the merchant of a draft. -/
def admitCreate (who : Principal) (draft : MerchantDraft) (t : Tables) : Except Failure Unit := do
  draft.fields.check
  draft.pointIds.forM (linkable who none t)

/-- The caller may write over a merchant, which is given as it is now. -/
def admitUpdate (who : Principal) (id : Int) (u : MerchantUpdate) (t : Tables) :
    Except Failure Merchant := do
  let m ← ownedIn who id t
  u.fields.check
  (u.pointIds.getD []).forM (linkable who (some id) t)
  return m

theorem replaceTags_eq (now : Timestamp) (id : Int) (tags : Option (List Int)) :
    replaceTags now id tags = .change fun _ t => t.retag now id tags := by
  cases tags <;> rfl

theorem replacePoints_eq (id : Int) (points : Option (List Int)) :
    replacePoints id points = .change fun _ t => t.repoint id points := by
  cases points <;> rfl

theorem markFavorite_eq (who : Principal) (id : Int) (mark : Option Bool) :
    markFavorite who id mark = .change fun _ t => t.mark who.id id mark := by
  cases mark with
  | none => rfl
  | some b => cases b <;> rfl

theorem create_eq (who : Principal) (draft : MerchantDraft) :
    create who draft = .guarded (fun d => admitCreate who draft d.tables) fun _ d =>
      let r := d.tables.enroll d.engine d.now who draft
      d.announcing .merchantCreated who r.1 r.2 := by
  funext d
  rw [Action.guarded, create, admitCreate, Action.bind_apply, Action.ofExcept_apply]
  cases draft.fields.check with
  | error e => rfl
  | ok _ =>
    simp only [Action.bind_apply, requireLinkable, Action.check_apply]
    rw [ok_bind]
    cases draft.pointIds.forM (linkable who none d.tables) <;> rfl

theorem find_eq (who : Principal) (id : Int) :
    find who id = .guarded (fun d => ownedIn who id d.tables) fun m d =>
      (d.tables.detailed who m, d) := by
  funext d
  rw [Action.guarded, find, Action.bind_apply, owned, Action.check_apply]
  cases ownedIn who id d.tables <;> rfl

theorem update_eq (who : Principal) (id : Int) (u : MerchantUpdate) :
    update who id u = .guarded (fun d => admitUpdate who id u d.tables) fun m d =>
      let m := m.apply d.now u.fields
      d.announcing .merchantUpdated who m (d.tables.rewrite d.engine d.now who id u m) := by
  funext d
  rw [Action.guarded, update, admitUpdate, Action.bind_apply, owned, Action.check_apply]
  cases ownedIn who id d.tables with
  | error e => rfl
  | ok m =>
    simp only [Action.bind_apply, Action.ofExcept_apply, requireLinkable, Action.check_apply,
      replaceTags_eq, replacePoints_eq, markFavorite_eq]
    cases u.fields.check with
    | error e => rfl
    | ok _ =>
      simp only [ok_bind]
      cases (u.pointIds.getD []).forM (linkable who (some id) d.tables) <;> rfl

theorem delete_eq (who : Principal) (id : Int) :
    delete who id = .guarded (fun d => ownedIn who id d.tables) fun m d =>
      ((), d.after (d.tables.expel id) .merchantDeleted (.merchant m) who) := by
  funext d
  rw [Action.guarded, delete, Action.bind_apply, owned, Action.check_apply]
  cases ownedIn who id d.tables <;> rfl

end Merchants

/-! ## The calls on tags -/

namespace Tags

/-- The caller may write over a tag, which is given as it is now. -/
def admitUpdate (who : Principal) (id : Int) (draft : TagDraft) (t : Tables) :
    Except Failure Tag := do
  draft.check
  ownedIn who id t

theorem create_eq (who : Principal) (draft : TagDraft) :
    create who draft = .guarded (fun _ => draft.check) fun _ d =>
      let r := d.tables.insertTag d.engine (draft.toTag d.now who.id)
      let seen := r.1.asSeenBy who
      (seen, d.after r.2 .tagCreated (.tag seen) who) := by
  funext d
  rw [Action.guarded, create, Action.bind_apply, Action.ofExcept_apply]
  cases draft.check <;> rfl

theorem update_eq (who : Principal) (id : Int) (draft : TagDraft) :
    update who id draft = .guarded (fun d => admitUpdate who id draft d.tables) fun tag d =>
      let tag := tag.revise d.now draft
      (tag, d.after (d.tables.updateTag d.engine tag) .tagUpdated (.tag tag) who) := by
  funext d
  rw [Action.guarded, update, admitUpdate, Action.bind_apply, Action.ofExcept_apply]
  cases draft.check with
  | error e => rfl
  | ok _ =>
    simp only [Action.bind_apply, owned, Action.check_apply]
    rw [ok_bind]
    cases ownedIn who id d.tables <;> rfl

theorem delete_eq (who : Principal) (id : Int) :
    delete who id = .guarded (fun d => ownedIn who id d.tables) fun tag d =>
      let tables := (d.tables.deleteRelationsOfTag id).deleteTag id
      ((), d.after tables .tagDeleted (.tag tag) who) := by
  funext d
  rw [Action.guarded, delete, Action.bind_apply, owned, Action.check_apply]
  cases ownedIn who id d.tables <;> rfl

end Tags

/-! ## The calls on points -/

namespace Points

/-- The caller may create the point of a draft. -/
def admitCreate (who : Principal) (draft : GeoPointDraft) (t : Tables) : Except Failure Unit := do
  draft.check
  let merchant ← requireHolder draft.merchant
  requireMerchant who merchant t

/-- The caller may write over a point, which is given as it is now. -/
def admitUpdate (who : Principal) (id : Int) (draft : GeoPointDraft) (t : Tables) :
    Except Failure GeoPoint := do
  draft.check
  let p ← accessibleIn who id t
  requireTarget who p draft.merchant t
  return p

theorem create_eq (who : Principal) (draft : GeoPointDraft) :
    create who draft = .guarded (fun d => admitCreate who draft d.tables) fun _ d =>
      let r := d.tables.insertPoint d.engine (draft.toPoint d.now)
      (r.1, d.after r.2 .pointCreated (.point r.1) who) := by
  funext d
  rw [Action.guarded, create, admitCreate, Action.bind_apply, Action.ofExcept_apply]
  cases draft.check with
  | error e => rfl
  | ok _ =>
    simp only [Action.bind_apply, Action.ofExcept_apply, Action.check_apply]
    cases requireHolder draft.merchant with
    | error e => rfl
    | ok merchant =>
      simp only [ok_bind]
      cases requireMerchant who merchant d.tables <;> rfl

theorem update_eq (who : Principal) (id : Int) (draft : GeoPointDraft) :
    update who id draft = .guarded (fun d => admitUpdate who id draft d.tables) fun p d =>
      let p := p.revise d.now draft
      (p, d.after (d.tables.updatePoint d.engine p) .pointUpdated (.point p) who) := by
  funext d
  rw [Action.guarded, update, admitUpdate, Action.bind_apply, Action.ofExcept_apply]
  cases draft.check with
  | error e => rfl
  | ok _ =>
    simp only [Action.bind_apply, accessible, Action.check_apply]
    cases accessibleIn who id d.tables with
    | error e => rfl
    | ok p =>
      simp only [ok_bind]
      cases requireTarget who p draft.merchant d.tables <;> rfl

theorem delete_eq (who : Principal) (id : Int) :
    delete who id = .guarded (fun d => accessibleIn who id d.tables) fun p d =>
      ((), d.after (d.tables.deletePoint id) .pointDeleted (.point p) who) := by
  funext d
  rw [Action.guarded, delete, Action.bind_apply, accessible, Action.check_apply]
  cases accessibleIn who id d.tables <;> rfl

end Points

end Gazetteer
