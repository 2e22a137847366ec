import Gazetteer.Text.Blank
import Gazetteer.Text.Lowercase

/-!
# The columns of an import

A header cell names a column by its key or by its label, whatever the letter case and the blanks
around it. The labels can be chosen.

* `Column`: the columns, in the order of the template.
* `Labels`: a label for every column.
* `Labels.resolve`: the column that a header cell names.
-/

set_option autoImplicit false

namespace Gazetteer.Import

/-- The columns, in the order of the template. -/
inductive Column where
  | title
  | address
  | phone
  | city
  | area
  | description
  | tags
  | longitude
  | latitude
  deriving DecidableEq, Repr

namespace Column

def all : List Column := [
  .title, .address, .phone, .city, .area, .description, .tags, .longitude, .latitude]

/-- The key of a column, which names it under any labels. -/
def key : Column → String
  | .title => "title"
  | .address => "address"
  | .phone => "phone"
  | .city => "city"
  | .area => "area"
  | .description => "description"
  | .tags => "tags"
  | .longitude => "lng"
  | .latitude => "lat"

/-- The label of a column when none is chosen. -/
def usualLabel : Column → String
  | .title => "商户名称"
  | .address => "地址"
  | .phone => "电话"
  | .city => "城市"
  | .area => "区域"
  | .description => "描述"
  | .tags => "标签"
  | .longitude => "经度"
  | .latitude => "纬度"

theorem mem_all (c : Column) : c ∈ all := by cases c <;> decide

end Column

/-- A label for every column. -/
abbrev Labels : Type := Column → String

namespace Labels

def usual : Labels := Column.usualLabel

/-- Chooses the label of a column. -/
def choose (labels : Labels) (column : Column) (label : String) : Labels :=
  fun c => if c = column then label else labels c

/-- The header cell, lowercase and without blanks around it, is the key or the label of a column. -/
def names (labels : Labels) (cell : String) (c : Column) : Bool :=
  cell == c.key || cell == Text.lowercase (labels c)

/-- The first column that a header cell names. -/
def resolve (labels : Labels) (cell : String) : Option Column :=
  Column.all.find? (labels.names (Text.lowercase (Text.trim cell)))

end Labels

end Gazetteer.Import
