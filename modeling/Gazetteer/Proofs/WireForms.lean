import Gazetteer.Proofs.Restoring
import Gazetteer.Wire.Draft

/-!
# The wire form keeps everything

Entities and drafts travel as JSON objects. Whoever receives one has back what was sent, with all
tags and points inside a merchant, as long as the numbers have the widths of the interface, the
floats are finite, and the moments are of those whose text reads back.

* `FitsWord`, `FitsHalfWord`, `Timestamp.ReadsBack`: numbers and moments that have a wire form.
* `Tag.Portable`, `GeoPoint.Portable`, `Merchant.Portable` and those of the drafts: what has one
  as a whole.
* `restores_tag`, `restores_point`, `restores_merchant` and those of the drafts: their decoders
  restore them.
* `entities_recovered`: all of them come back.
-/

set_option autoImplicit false

namespace Gazetteer

open Json (Decoder)

/-! ## What has a wire form -/

/-- The number fits a signed 64-bit word. -/
def FitsWord (n : Int) : Prop := Int64.minValue.toInt ≤ n ∧ n ≤ Int64.maxValue.toInt

/-- The number fits a signed 32-bit word. -/
def FitsHalfWord (n : Int) : Prop := Int32.minValue.toInt ≤ n ∧ n ≤ Int32.maxValue.toInt

instance : DecidablePred FitsWord := fun _ => inferInstanceAs (Decidable (_ ∧ _))

instance : DecidablePred FitsHalfWord := fun _ => inferInstanceAs (Decidable (_ ∧ _))

/-- The text of the moment names the moment. -/
def Timestamp.ReadsBack (t : Timestamp) : Prop := read? t.write = some t

/-- The numbers of the tag have the widths of the interface, and its moments have texts. -/
structure Tag.Portable (t : Tag) : Prop where
  id : FitsWord t.id
  owner : FitsWord t.owner
  created : t.created.ReadsBack
  updated : t.updated.ReadsBack

structure GeoPoint.Portable (p : GeoPoint) : Prop where
  id : FitsWord p.id
  merchant : ∀ m ∈ p.merchant, FitsWord m
  longitude : Decimal.isFinite p.longitude = true
  latitude : Decimal.isFinite p.latitude = true
  accuracy : FitsHalfWord p.accuracy
  created : p.created.ReadsBack
  updated : p.updated.ReadsBack

/-- So do those of the merchant and of everything inside it, and the floats are finite. -/
structure Merchant.Portable (m : Merchant) : Prop where
  id : FitsWord m.id
  longitude : ∀ x ∈ m.longitude, Decimal.isFinite x = true
  latitude : ∀ x ∈ m.latitude, Decimal.isFinite x = true
  score : FitsHalfWord m.geocodeScore
  owner : FitsWord m.owner
  tags : ∀ t ∈ m.tags, t.Portable
  points : ∀ p ∈ m.points, p.Portable
  created : m.created.ReadsBack
  updated : m.updated.ReadsBack

structure GeoPointDraft.Portable (d : GeoPointDraft) : Prop where
  merchant : ∀ m ∈ d.merchant, FitsWord m
  longitude : Decimal.isFinite d.longitude = true
  latitude : Decimal.isFinite d.latitude = true
  accuracy : FitsHalfWord d.accuracy

structure MerchantFields.Portable (f : MerchantFields) : Prop where
  longitude : ∀ x ∈ f.longitude, Decimal.isFinite x = true
  latitude : ∀ x ∈ f.latitude, Decimal.isFinite x = true
  score : FitsHalfWord f.geocodeScore

structure MerchantDraft.Portable (d : MerchantDraft) : Prop where
  fields : d.fields.Portable
  tagIds : ∀ id ∈ d.tagIds, FitsWord id
  pointIds : ∀ id ∈ d.pointIds, FitsWord id

structure MerchantUpdate.Portable (d : MerchantUpdate) : Prop where
  fields : d.fields.Portable
  tagIds : ∀ ids ∈ d.tagIds, ∀ id ∈ ids, FitsWord id
  pointIds : ∀ ids ∈ d.pointIds, ∀ id ∈ ids, FitsWord id

namespace Wire

open Json.Decoder

variable {depth : Nat}

/-! ## Parts of entities -/

theorem restores_word {n : Int} (h : FitsWord n) : Decoder.int64.Restores depth (.int n) n := by
  have low : Int64.minValue.toInt = -2 ^ 63 := by decide
  have high : Int64.maxValue.toInt = 2 ^ 63 - 1 := by decide
  obtain ⟨least, most⟩ := h
  exact restores_int ⟨least, most⟩ ⟨by omega, by omega⟩

theorem restores_halfWord {n : Int} (h : FitsHalfWord n) : smallInt.Restores depth (.int n) n := by
  have low : Int32.minValue.toInt = -2 ^ 31 := by decide
  have high : Int32.maxValue.toInt = 2 ^ 31 - 1 := by decide
  obtain ⟨least, most⟩ := h
  exact restores_int ⟨least, most⟩ ⟨by omega, by omega⟩

theorem restores_count (n : UInt32) : smallNat.Restores depth (.int n.toNat) n := by
  have size : UInt32.size = 2 ^ 32 := rfl
  have most := n.toNat_lt
  have whole : (Decoder.nat (UInt32.size - 1)).Restores depth (.int n.toNat) n.toNat :=
    restores_nat (by omega) (by omega)
  refine ⟨fun room s enough stated => ?_, whole.legible⟩
  rw [smallNat, whole.read room s enough stated]
  exact congrArg Except.ok UInt32.ofNat_toNat

theorem restores_holder {o : Option Int} (h : ∀ m ∈ o, FitsWord m) :
    (Decoder.optional .int64).Restores depth (Json.ofOption .int o) o :=
  restores_ofOption o fun m hm => ⟨restores_word (h m hm), nofun⟩

theorem floatJson_of_isFinite {x : Float} (h : Decimal.isFinite x = true) :
    floatJson x = .float x := if_pos h

theorem restores_degree {x : Float} (h : Decimal.isFinite x = true) :
    Decoder.float.Restores depth (floatJson x) x :=
  floatJson_of_isFinite h ▸ restores_float x

theorem restores_place {o : Option Float} (h : ∀ x ∈ o, Decimal.isFinite x = true) :
    (Decoder.optional .float).Restores depth (Json.ofOption floatJson o) o := by
  refine restores_ofOption o fun x hx => ⟨restores_degree (h x hx), ?_⟩
  rw [floatJson_of_isFinite (h x hx)]
  exact nofun

theorem restores_permission (p : Permission) :
    permissionDecoder.Restores depth (permissionJson p) p := by
  have level : p.level ≤ 2 := by cases p <;> decide
  have byte : (Decoder.nat 255).Restores depth (permissionJson p) p.level :=
    restores_nat (by omega) (by omega)
  refine ⟨fun room s enough stated => ?_, byte.legible⟩
  rw [permissionDecoder, byte.read room s enough stated]
  exact congrArg Except.ok p.ofLevel_level

theorem restores_moment {t : Timestamp} (h : t.ReadsBack) :
    timestampDecoder.Restores depth (timestampJson t) t := by
  have text : Decoder.text.Restores depth (timestampJson t) t.write := restores_text _
  have named : Timestamp.read? t.write = some t := h
  refine ⟨fun room s enough stated => ?_, text.legible⟩
  rw [timestampDecoder, text.read room s enough stated]
  simp only [bind, Except.bind, named]
  rfl

theorem restores_ids {ids : List Int} (h : ∀ id ∈ ids, FitsWord id) :
    (Decoder.listOf .int64).Restores (depth + 1) (idsJson ids) ids :=
  restores_listOf fun id hid => restores_word (h id hid)

/-! ## Entities -/

theorem restores_tag {t : Tag} (h : t.Portable) : tagDecoder.Restores 1 (tagJson t) t := by
  have filled : Filled 0 tagFields (tagMembers t) _ :=
    .cons ((restores_word h.id).required _ _) <|
    .cons ((restores_text t.name).required _ _) <|
    .cons ((restores_text t.shortName).required _ _) <|
    .cons ((restores_text t.category).required _ _) <|
    .cons ((restores_text t.remarks).required _ _) <|
    .cons ((restores_text t.color).required _ _) <|
    .cons ((restores_word h.owner).required _ _) <|
    .cons ((restores_permission t.permission).defaulted _ _) <|
    .cons ((restores_moment h.created).required _ _) <|
    .cons ((restores_moment h.updated).required _ _) .nil
  exact restores_record filled (by decide) (by simp [Function.Commute, Function.Semiconj]) default

theorem restores_point {p : GeoPoint} (h : p.Portable) :
    pointDecoder.Restores 1 (pointJson p) p := by
  have filled : Filled 0 pointFields (pointMembers p) _ :=
    .cons ((restores_word h.id).required _ _) <|
    .cons ((restores_holder h.merchant).nullable _ _) <|
    .cons ((restores_text p.source).required _ _) <|
    .cons ((restores_degree h.longitude).required _ _) <|
    .cons ((restores_degree h.latitude).required _ _) <|
    .cons ((restores_text p.address).required _ _) <|
    .cons ((restores_halfWord h.accuracy).required _ _) <|
    .cons ((restores_text p.metadata).required _ _) <|
    .cons ((restores_moment h.created).required _ _) <|
    .cons ((restores_moment h.updated).required _ _) .nil
  exact restores_record filled (by decide) (by simp [Function.Commute, Function.Semiconj]) default

theorem restores_merchant {m : Merchant} (h : m.Portable) :
    merchantDecoder.Restores 3 (merchantJson m) m := by
  have filled : Filled 2 merchantFields (merchantMembers m) _ :=
    .cons ((restores_word h.id).required _ _) <|
    .cons ((restores_text m.title).required _ _) <|
    .cons ((restores_text m.description).required _ _) <|
    .cons ((restores_text m.phone).required _ _) <|
    .cons ((restores_text m.address).required _ _) <|
    .cons ((restores_text m.city).required _ _) <|
    .cons ((restores_text m.area).required _ _) <|
    .cons ((restores_place h.longitude).nullable _ _) <|
    .cons ((restores_place h.latitude).nullable _ _) <|
    .cons ((restores_text m.geocodeLevel).required _ _) <|
    .cons ((restores_halfWord h.score).required _ _) <|
    .cons ((restores_text m.geocodeDescription).required _ _) <|
    .cons ((restores_count m.geocodeAttempts).required _ _) <|
    .cons ((restores_word h.owner).required _ _) <|
    .cons ((restores_listOf fun t ht => restores_tag (h.tags t ht)).defaulted _ _) <|
    .cons ((restores_listOf fun p hp => restores_point (h.points p hp)).defaulted _ _) <|
    .cons ((restores_bool m.isFavorite).defaulted _ _) <|
    .cons ((restores_permission m.permission).defaulted _ _) <|
    .cons ((restores_moment h.created).required _ _) <|
    .cons ((restores_moment h.updated).required _ _) .nil
  exact restores_record filled (by decide) (by simp [Function.Commute, Function.Semiconj]) default

/-! ## Drafts -/

theorem restores_tagDraft (d : TagDraft) : tagDraftDecoder.Restores 1 (tagDraftJson d) d := by
  have filled : Filled 0 tagDraftFields _ _ :=
    .cons ((restores_text d.name).required _ _) <|
    .cons ((restores_text d.shortName).defaulted _ _) <|
    .cons ((restores_text d.category).defaulted _ _) <|
    .cons ((restores_text d.remarks).defaulted _ _) <|
    .cons ((restores_text d.color).defaulted _ _) .nil
  exact restores_record filled (by decide) (by simp [Function.Commute, Function.Semiconj]) _

theorem restores_pointDraft {d : GeoPointDraft} (h : d.Portable) :
    pointDraftDecoder.Restores 1 (pointDraftJson d) d := by
  have filled : Filled 0 pointDraftFields _ _ :=
    .cons ((restores_holder h.merchant).defaulted _ _) <|
    .cons ((restores_text d.source).defaulted _ _) <|
    .cons ((restores_degree h.longitude).required _ _) <|
    .cons ((restores_degree h.latitude).required _ _) <|
    .cons ((restores_text d.address).defaulted _ _) <|
    .cons ((restores_halfWord h.accuracy).defaulted _ _) <|
    .cons ((restores_text d.metadata).defaulted _ _) .nil
  exact restores_record filled (by decide) (by simp [Function.Commute, Function.Semiconj]) _

theorem columns_filled {f : MerchantFields} (h : f.Portable) :
    ∃ puts, Filled 1 columnFields (columnMembers f) puts ∧ puts.Pairwise Function.Commute ∧
      putAll puts .blank = f := by
  have filled : Filled 1 columnFields (columnMembers f) _ :=
    .cons ((restores_text f.title).required _ _) <|
    .cons ((restores_text f.description).defaulted _ _) <|
    .cons ((restores_text f.phone).defaulted _ _) <|
    .cons ((restores_text f.address).defaulted _ _) <|
    .cons ((restores_text f.city).defaulted _ _) <|
    .cons ((restores_text f.area).defaulted _ _) <|
    .cons ((restores_place h.longitude).defaulted _ _) <|
    .cons ((restores_place h.latitude).defaulted _ _) <|
    .cons ((restores_text f.geocodeLevel).defaulted _ _) <|
    .cons ((restores_halfWord h.score).defaulted _ _) <|
    .cons ((restores_text f.geocodeDescription).defaulted _ _) <|
    .cons ((restores_count f.geocodeAttempts).defaulted _ _) .nil
  exact ⟨_, filled, by simp [Function.Commute, Function.Semiconj], rfl⟩

theorem isPlain_floatJson (x : Float) : (floatJson x).IsPlain := by
  rw [floatJson]
  split <;> trivial

theorem columnMembers_plain (f : MerchantFields) : ∀ m ∈ columnMembers f, m.2.IsPlain := by
  have place (o : Option Float) : (Json.ofOption floatJson o).IsPlain := by
    cases o with
    | none => trivial
    | some x => exact isPlain_floatJson x
  have text (s : String) : (Json.text s).IsPlain := trivial
  have whole (n : Int) : (Json.int n).IsPlain := trivial
  simp [columnMembers, place, text, whole]

theorem restores_merchantDraft {d : MerchantDraft} (h : d.Portable) :
    merchantDraftDecoder.Restores 2 (merchantDraftJson d) d := by
  obtain ⟨puts, columns, commute, whole⟩ := columns_filled h.fields
  have sets : Filled 1 draftSets _ _ :=
    .cons ((restores_ids h.tagIds).defaulted _ _) <|
    .cons ((restores_ids h.pointIds).defaulted _ _) <|
    .cons ((restores_bool d.isFavorite).defaulted _ _) .nil
  have restored := restores_nested sets columns (by decide)
    (by simp [Function.Commute, Function.Semiconj]) commute
    (columnMembers_plain d.fields) ⟨.blank, [], [], false⟩ .blank fun f d => { d with fields := f }
  rwa [whole] at restored

theorem restores_merchantUpdate {d : MerchantUpdate} (h : d.Portable) :
    merchantUpdateDecoder.Restores 2 (merchantUpdateJson d) d := by
  obtain ⟨puts, columns, commute, whole⟩ := columns_filled h.fields
  have ids {o : Option (List Int)} (words : ∀ ids ∈ o, ∀ id ∈ ids, FitsWord id) :
      (Decoder.optional (.listOf .int64)).Restores 1 (Json.ofOption idsJson o) o :=
    restores_ofOption o fun ids hids => ⟨restores_ids (words ids hids), nofun⟩
  have mark : (Decoder.optional .bool).Restores 1 (Json.ofOption .bool d.isFavorite) d.isFavorite :=
    restores_ofOption _ fun b _ => ⟨restores_bool b, nofun⟩
  have sets : Filled 1 updateSets _ _ :=
    .cons ((ids h.tagIds).defaulted _ _) <|
    .cons ((ids h.pointIds).defaulted _ _) <|
    .cons (mark.defaulted _ _) .nil
  have restored := restores_nested sets columns (by decide)
    (by simp [Function.Commute, Function.Semiconj]) commute
    (columnMembers_plain d.fields) ⟨.blank, none, none, none⟩ .blank
    fun f d => { d with fields := f }
  rwa [whole] at restored

/-! ## Floats -/

theorem floats_place {o : Option Float} (h : ∀ x ∈ o, Decimal.isFinite x = true) :
    (Json.ofOption floatJson o).floats = o.toList := by
  cases o with
  | none => rfl
  | some x =>
    rw [Json.ofOption, floatJson_of_isFinite (h x rfl)]
    rfl

theorem floats_pointJson {p : GeoPoint} (h : p.Portable) :
    (pointJson p).floats = [p.longitude, p.latitude] := by
  have holder : (Json.ofOption .int p.merchant).floats = [] := by cases p.merchant <;> rfl
  simp [pointJson, pointMembers, timestampJson, Json.floats, Json.memberFloats, holder,
    floatJson_of_isFinite h.longitude, floatJson_of_isFinite h.latitude]

/-- A merchant travels with its own place and with those of its points. -/
theorem floats_merchantJson {m : Merchant} (h : m.Portable) :
    (merchantJson m).floats = m.longitude.toList ++ m.latitude.toList ++
      m.points.flatMap fun p => [p.longitude, p.latitude] := by
  have tags : (m.tags.flatMap fun t => (tagJson t).floats) = [] :=
    List.flatMap_eq_nil_iff.2 fun _ _ => rfl
  have points : (m.points.flatMap fun p => (pointJson p).floats) =
      m.points.flatMap fun p => [p.longitude, p.latitude] :=
    List.flatMap_congr fun p hp => floats_pointJson (h.points p hp)
  simp [merchantJson, merchantMembers, timestampJson, permissionJson, Json.floats,
    Json.memberFloats, Json.itemFloats_map, floats_place h.longitude, floats_place h.latitude,
    tags, points]

end Wire

/-! ## Everything comes back -/

open Wire

/-- The member of a value with a name, if it is an object that has one. -/
def Json.member? (name : String) : Json → Option Json
  | .object members => get? name members
  | _ => none

/-- Merchants with all their tags and points, tags, points and the drafts of all three are read back
from their wire form: from the value, with its members in any order, and from its text as far as the
texts of its floats read back. A permission stands there as its level, a source under the name
`from`, and a set that is not given is told from an empty one. -/
theorem entities_recovered :
    (∀ m : Merchant, m.Portable →
      merchantDecoder.Recovers (merchantJson m) m ∧
      (merchantJson m).member? "max_permission" = some (.int m.permission.level)) ∧
    (∀ t : Tag, t.Portable →
      tagDecoder.Recovers (tagJson t) t ∧
      (tagJson t).member? "max_permission" = some (.int t.permission.level)) ∧
    (∀ p : GeoPoint, p.Portable →
      pointDecoder.Recovers (pointJson p) p ∧
      (pointJson p).member? "from" = some (.text p.source)) ∧
    (∀ d : MerchantDraft, d.Portable →
      merchantDraftDecoder.Recovers (merchantDraftJson d) d) ∧
    (∀ d : MerchantUpdate, d.Portable →
      merchantUpdateDecoder.Recovers (merchantUpdateJson d) d ∧
      (d.tagIds = none ↔ (merchantUpdateJson d).member? "tag_ids" = some .null) ∧
      (d.tagIds = some [] ↔ (merchantUpdateJson d).member? "tag_ids" = some (.list [])) ∧
      (d.pointIds = none ↔ (merchantUpdateJson d).member? "geo_point_ids" = some .null) ∧
      (d.pointIds = some [] ↔
        (merchantUpdateJson d).member? "geo_point_ids" = some (.list []))) ∧
    (∀ d : TagDraft, tagDraftDecoder.Recovers (tagDraftJson d) d) ∧
    (∀ d : GeoPointDraft, d.Portable →
      pointDraftDecoder.Recovers (pointDraftJson d) d ∧
      (pointDraftJson d).member? "from" = some (.text d.source)) := by
  have given (o : Option (List Int)) :
      (o = none ↔ Json.ofOption idsJson o = .null) ∧
        (o = some [] ↔ Json.ofOption idsJson o = .list []) := by
    rcases o with _ | _ | _ <;> simp [Json.ofOption, idsJson]
  refine ⟨fun m h => ⟨(restores_merchant h).recovers (by decide), rfl⟩,
    fun t h => ⟨(restores_tag h).recovers (by decide), rfl⟩,
    fun p h => ⟨(restores_point h).recovers (by decide), rfl⟩,
    fun d h => (restores_merchantDraft h).recovers (by decide),
    fun d h => ⟨(restores_merchantUpdate h).recovers (by decide), ?_⟩,
    fun d => (restores_tagDraft d).recovers (by decide),
    fun d h => ⟨(restores_pointDraft h).recovers (by decide), rfl⟩⟩
  have tags : (merchantUpdateJson d).member? "tag_ids" =
      some (Json.ofOption idsJson d.tagIds) := rfl
  have points : (merchantUpdateJson d).member? "geo_point_ids" =
      some (Json.ofOption idsJson d.pointIds) := rfl
  rw [tags, points, Option.some_inj, Option.some_inj, Option.some_inj, Option.some_inj]
  exact ⟨(given d.tagIds).1, (given d.tagIds).2, (given d.pointIds).1, (given d.pointIds).2⟩

/-- A tag and a point inside a merchant, and an update that takes all tags away and leaves the
points alone. -/
theorem bakery_recovered :
    let noon : Timestamp := ⟨1704110400, 0⟩
    let tag : Tag := ⟨1, "bread", "", "food", "", "ff00aa", 7, .admin, noon, noon⟩
    let point : GeoPoint :=
      ⟨2, some 9223372036854775807, "merchant", 13.5, 52, "Main Street 1", 80, "", noon, noon⟩
    let m : Merchant :=
      ⟨9223372036854775807, "Bakery \"Crumb\"", "", "", "Main Street 1", "", "", some 13.5,
        some 52, "house", 80, "found", 3, 7, [tag], [point], true, .admin, noon, noon⟩
    let update : MerchantUpdate := ⟨.blank, some [], none, some false⟩
    Decoder.ofJson merchantDecoder (merchantJson m) = .ok m ∧
      Decoder.ofText merchantDecoder (Json.render (merchantJson m)) = .ok m ∧
      Decoder.ofJson merchantUpdateDecoder (merchantUpdateJson update) = .ok update ∧
      (merchantUpdateJson update).member? "tag_ids" = some (.list []) := by
  intro noon tag point m update
  have now : noon.ReadsBack := by
    unfold Timestamp.ReadsBack
    cbv
  have longitude : Decimal.isFinite 13.5 = true := by decide
  have latitude : Decimal.isFinite 52 = true := by decide
  have tagPortable : tag.Portable := ⟨by decide, by decide, now, now⟩
  have pointPortable : point.Portable :=
    { id := by decide, merchant := by decide, longitude := longitude, latitude := latitude,
      accuracy := by decide, created := now, updated := now }
  have portable : m.Portable :=
    { id := by decide, longitude := by simpa [m] using longitude,
      latitude := by simpa [m] using latitude, score := by decide,
      owner := by decide, tags := by simpa [m] using tagPortable,
      points := by simpa [m] using pointPortable, created := now, updated := now }
  have nowhere : ∀ x ∈ (none : Option Float), Decimal.isFinite x = true := by simp
  have updatePortable : update.Portable :=
    { fields := ⟨nowhere, nowhere, by decide⟩, tagIds := by decide,
      pointIds := by decide }
  have back : Json.FloatsReadBack (merchantJson m) := by
    have east : Json.FloatReadsBack 13.5 := by
      unfold Json.FloatReadsBack
      rfl
    have south : Json.FloatReadsBack 52 := by
      unfold Json.FloatReadsBack
      rfl
    simp [Json.FloatsReadBack, floats_merchantJson portable, m, point, east, south]
  obtain ⟨merchants, _, _, _, updates, _⟩ := entities_recovered
  have recovered := (merchants m portable).1
  obtain ⟨read, _, empty, _⟩ := updates update updatePortable
  exact ⟨recovered.value, recovered.text back, read.value, empty.1 rfl⟩

end Gazetteer
