import Gazetteer.Access
import Gazetteer.Failure
import Gazetteer.Text.Blank
import Gazetteer.Text.Lowercase
import Gazetteer.Timestamp

/-!
# Merchant tags

A tag is a label that its owner puts on merchants.

* `Tag`: a tag as it is stored.
* `TagDraft`: what a caller says about a tag, and its check.
* `canonicalColor`: the stored form of a colour.
* `Relation`: a merchant carries a tag.
-/

set_option autoImplicit false

namespace Gazetteer

open Gazetteer.Text (trimChars isBlankText foldAscii)

/-- A tag as it is stored. -/
structure Tag where
  id : Int
  name : String
  shortName : String
  category : String
  remarks : String
  color : String
  owner : Int
  permission : Permission
  created : Timestamp
  updated : Timestamp
  deriving Inhabited

/-- What a caller says about a tag. -/
structure TagDraft where
  name : String
  shortName : String
  category : String
  remarks : String
  color : String
  deriving Inhabited

/-- A merchant carries a tag; it may do so more than once. -/
structure Relation where
  merchant : Int
  tag : Int
  created : Timestamp
  deriving Inhabited

/-- The stored form of a colour: no blanks around it, without one number sign in front, A to Z
small. -/
def canonicalColor (s : String) : String :=
  let bare := match trimChars s.toList with
    | '#' :: rest => rest
    | cs => cs
  String.ofList (bare.map foldAscii)

def Tag.isOwnedBy (t : Tag) (p : Principal) : Bool := t.owner = p.id

/-- A tag with the permission that the caller holds on it. -/
def Tag.asSeenBy (t : Tag) (p : Principal) : Tag :=
  { t with permission := Permission.held (t.isOwnedBy p) }

/-- A tag needs a name, and its texts have a greatest length. -/
def TagDraft.check (d : TagDraft) : Except Failure Unit := do
  require (!isBlankText d.name) (.required "merchant tag name")
  requireLength "merchant tag name" d.name 50
  requireLength "alias" d.shortName 10
  requireLength "class" d.category 50
  requireLength "hex color" d.color 7

/-- A new tag, with its colour in stored form. -/
def TagDraft.toTag (d : TagDraft) (now : Timestamp) (owner : Int) : Tag :=
  { id := 0, name := d.name, shortName := d.shortName, category := d.category, remarks := d.remarks,
    color := canonicalColor d.color, owner := owner, permission := .read,
    created := now, updated := now }

/-- The tag with everything that the draft says. -/
def Tag.revise (t : Tag) (now : Timestamp) (d : TagDraft) : Tag :=
  { t with
    name := d.name, shortName := d.shortName, category := d.category, remarks := d.remarks,
    color := canonicalColor d.color, updated := now }

end Gazetteer
