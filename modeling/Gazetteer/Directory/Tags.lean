import Gazetteer.Directory

/-!
# The calls on tags

A caller works on own tags only. When a tag goes, the merchants that carry it stay.

* `owned`: a tag of the caller.
* `create`, `find`, `list`, `update`, `delete`.
-/

set_option autoImplicit false

namespace Gazetteer.Tags

/-- A tag of the caller in the tables. -/
def ownedIn (who : Principal) (id : Int) (t : Tables) : Except Failure Tag :=
  match t.tags.get? id with
  | none => .error (.notFound (.row "merchant tag" id))
  | some tag =>
    if tag.isOwnedBy who then .ok (tag.asSeenBy who) else .error (.accessDenied "merchant tag")

/-- A tag of the caller. -/
def owned (who : Principal) (id : Int) : Action Tag := .check fun d => ownedIn who id d.tables

/-- Adds a tag of the caller. -/
def create (who : Principal) (draft : TagDraft) : Action Tag := do
  .ofExcept draft.check
  let now ← Action.now
  let tag ← .create fun e t => t.insertTag e (draft.toTag now who.id)
  let seen := tag.asSeenBy who
  .publish ⟨.tagCreated, .tag seen, who⟩
  return seen

/-- A tag of the caller. -/
def find (who : Principal) (id : Int) : Action Tag := owned who id

/-- The caller's tags that a search finds, page by page; only those of a category, if one is
given. -/
def list (who : Principal) (search : String) (category : Option String) (paging : Paging) :
    Action (Page Tag) :=
  .check fun d => do
    let category := category.filter (!·.isEmpty)
    let (tags, total) ← d.tables.findTags d.engine who.id search category paging
    return ⟨tags.map (·.asSeenBy who), total⟩

/-- Writes over a tag of the caller. -/
def update (who : Principal) (id : Int) (draft : TagDraft) : Action Tag := do
  .ofExcept draft.check
  let tag ← owned who id
  let now ← Action.now
  let tag := tag.revise now draft
  .change fun e t => t.updateTag e tag
  .publish ⟨.tagUpdated, .tag tag, who⟩
  return tag

/-- Removes a tag of the caller from every merchant and from the tables. -/
def delete (who : Principal) (id : Int) : Action Unit := do
  let tag ← owned who id
  .change fun _ t => (t.deleteRelationsOfTag id).deleteTag id
  .publish ⟨.tagDeleted, .tag tag, who⟩

end Gazetteer.Tags
