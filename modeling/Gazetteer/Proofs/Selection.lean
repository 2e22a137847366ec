import Gazetteer.Proofs.CallsAlike
import Gazetteer.Proofs.ReadBack

/-!
# What a search finds

A list is made in three steps: the rows in question are taken from their table, a search keeps some
of them, and a page is cut out of what is left. The lists of merchants, tags and points differ in
the first step only.

* `Engine.hits`: what a search looks for in the texts of a row.
* `Engine.Refuses`: the searches that the database does not try.
* `select_tried`, `select_refused`: a search finds the rows that it hits, or it fails.
* `seek_tried`, `seek_refused`: the same with a page cut out.
* `foundMerchants`, `foundTags`, `foundPoints`: what the three searches find.
* `list_eq`: the calls that list, by their search.
-/

set_option autoImplicit false

namespace Gazetteer

namespace Engine

variable {α : Type}

/-- The search finds one of the texts. -/
def hits (e : Engine) (search : String) (texts : List String) : Bool :=
  match e with
  | .memory => containsFolded search texts
  | .sqlite =>
    let shown := Like.visible (Like.pattern search.toList)
    texts.any fun t => Like.covers shown (Like.visible t.toList)

/-- The database does not try a pattern that is too long. -/
def Refuses (e : Engine) (search : String) : Prop :=
  e = .sqlite ∧ Like.maxBytes < Like.byteSize (Like.pattern search.toList)

theorem select_tried {e : Engine} {search : String} {rows : List α}
    (h : e.Refuses search → rows = []) (texts : α → List String) :
    e.select search texts rows = .ok (rows.filter fun r => e.hits search (texts r)) := by
  cases e with
  | memory => rfl
  | sqlite =>
    by_cases long : Like.maxBytes < Like.byteSize (Like.pattern search.toList)
    · obtain rfl := h ⟨rfl, long⟩
      simp [select]
    · simp only [select, long, decide_false, Bool.false_and, Bool.false_eq_true, if_false, hits]

theorem select_refused {e : Engine} {search : String} {rows : List α} (h : e.Refuses search)
    (ne : rows ≠ []) (texts : α → List String) :
    e.select search texts rows = .error tooComplex := by
  obtain ⟨rfl, long⟩ := h
  simp [select, long, ne]

theorem seek_tried {e : Engine} {search : String} {rows : List α}
    (h : e.Refuses search → rows = []) (texts : α → List String) (p : Paging) :
    e.seek search texts p rows =
      .ok (e.page p (rows.filter fun r => e.hits search (texts r)),
        (rows.filter fun r => e.hits search (texts r)).length) := by
  rw [seek, select_tried h]
  rfl

theorem seek_refused {e : Engine} {search : String} {rows : List α} (h : e.Refuses search)
    (ne : rows ≠ []) (texts : α → List String) (p : Paging) :
    e.seek search texts p rows = .error tooComplex := by
  rw [seek, select_refused h ne]
  rfl

end Engine

/-! ## The rows in question -/

namespace Tables

/-- The merchants of an owner. -/
def merchantsOf (owner : Int) (t : Tables) : List Merchant :=
  t.merchants.rows.filter (·.owner = owner)

/-- The tags of an owner, and of a category if one is given. -/
def tagsOf (owner : Int) (category : Option String) (t : Tables) : List Tag :=
  t.tags.rows.filter fun tag => tag.owner = owner && category.all (tag.category == ·)

/-- The text of a point that a search looks into. -/
def pointTexts (p : GeoPoint) : List String := [p.address]

/-- The merchants of an owner that a search finds. -/
def foundMerchants (e : Engine) (owner : Int) (search : String) (t : Tables) : List Merchant :=
  (t.merchantsOf owner).filter fun m => e.hits search (merchantTexts m)

/-- The tags of an owner, and of a category if one is given, that a search finds. -/
def foundTags (e : Engine) (owner : Int) (search : String) (category : Option String)
    (t : Tables) : List Tag :=
  (t.tagsOf owner category).filter fun tag => e.hits search (tagTexts tag)

/-- The points that a merchant holds and a search finds. -/
def foundPoints (e : Engine) (merchant : Int) (search : String) (t : Tables) : List GeoPoint :=
  (t.pointsOf merchant).filter fun p => e.hits search (pointTexts p)

end Tables

/-! ## The calls that list -/

/-- What a search has found, as a page. -/
def Page.found {α : Type} (r : List α × Nat) : Page α := ⟨r.1, r.2⟩

theorem Merchants.list_eq (who : Principal) (search : String) (p : Paging) (d : Directory) :
    list who search p d =
      (((d.tables.findMerchants d.engine who.id search p).map Page.found).map
        (Page.map (d.tables.detailed who)), d) := by
  rw [list, Action.check_apply]
  cases d.tables.findMerchants d.engine who.id search p with
  | error e => rfl
  | ok r => exact congrArg (fun ms => (Except.ok (Page.mk ms r.2), d)) (Tables.allDetailed_eq ..)

theorem Tags.list_eq (who : Principal) (search : String) (category : Option String) (p : Paging)
    (d : Directory) :
    list who search category p d =
      (((d.tables.findTags d.engine who.id search (category.filter (!·.isEmpty)) p).map
        Page.found).map (Page.map (·.asSeenBy who)), d) := by
  rw [list, Action.check_apply]
  dsimp only
  cases d.tables.findTags d.engine who.id search (category.filter (!·.isEmpty)) p <;> rfl

theorem Points.list_eq {who : Principal} {merchant : Int} {d : Directory}
    (own : requireMerchant who merchant d.tables = .ok ()) (search : String) (p : Paging) :
    list who merchant search p d =
      ((d.tables.findPoints d.engine merchant search p).map Page.found, d) := by
  rw [list, Action.check_apply, own]
  cases d.tables.findPoints d.engine merchant search p <;> rfl

end Gazetteer
