import Gazetteer.Proofs.Pages
import Gazetteer.Proofs.TagPermissions

/-!
# The points around a place

A search around a place takes the points inside a window, as many as its limit allows, and leaves
out those that are too far away. The limit comes first, so points may be missing although there is
room for them, but what a limit lets through does not depend on the others.

* `mem_take_iff`: the first rows of a table are those in front of which there are few.
* `Engine.atMost_prefix`: a larger limit adds rows at the end.
* `Geocoding.Surroundings`: what is answered, for all limits.
* `nearby_surroundings`: the search answers it, and both engines answer the same.
-/

set_option autoImplicit false

namespace Gazetteer

open Float.Model (UnpackedFloat)

theorem not_neg_of_nonneg {x : Float} (h : 0 ≤ x) : ¬x < 0 := by
  have lt_iff : x < 0 ↔ x.toModel.unpack.lt (0 : Float).toModel.unpack = true := by
    show decide (x.toModel < (0 : Float).toModel) = true ↔ _
    rw [decide_eq_true_iff]
    rfl
  rw [le_iff, unpack_zero] at h
  rw [lt_iff, unpack_zero]
  revert h
  cases x.toModel.unpack with
  | notANumber => decide
  | infinity s => cases s <;> decide
  | zero s => cases s <;> decide
  | finite s m e h => cases s <;> simp [UnpackedFloat.le, UnpackedFloat.lt, UnpackedFloat.compare]

/-! ## The first rows -/

section

variable {α : Type}

/-- Of rows in order a row is among the first ones when there are few in front of it. -/
theorem mem_take_iff [Keyed α] {rows : List α} (increasing : rows.Pairwise fun a b => key a < key b)
    {limit : Nat} {r : α} :
    r ∈ rows.take limit ↔ r ∈ rows ∧ rows.countP (fun x => key x < key r) < limit := by
  induction rows generalizing limit with
  | nil => simp
  | cons first rest ih =>
    obtain ⟨least, increasing⟩ := List.pairwise_cons.1 increasing
    cases limit with
    | zero => simp
    | succ limit =>
      rw [List.take_succ_cons, List.mem_cons, List.mem_cons, ih increasing, List.countP_cons]
      by_cases here : r = first
      · -- Nothing is in front of the first row, and it is in front of every other one.
        subst here
        have none : rest.countP (fun x => key x < key r) = 0 := by
          refine List.countP_eq_zero.2 fun x hx => ?_
          have := least x hx
          simp only [decide_eq_true_eq]
          omega
        simp [none]
      · by_cases behind : r ∈ rest
        · have before : key first < key r := least r behind
          simp [here, behind, before]
        · simp [here, behind]

namespace Engine

/-- A larger limit adds rows at the end. -/
theorem atMost_prefix {limit limit' : Nat} (h : limit' = 0 ∨ 0 < limit ∧ limit ≤ limit')
    (rows : List α) : memory.atMost limit rows <+: memory.atMost limit' rows := by
  rw [atMost, atMost]
  by_cases all : limit' = 0
  · rw [if_pos all]
    split
    · exact List.prefix_rfl
    · exact List.take_prefix _ _
  · obtain ⟨some, le⟩ := h.resolve_left all
    rw [if_neg (by omega), if_neg all]
    exact List.take_prefix_take_left le

theorem atMost_sublist (limit : Nat) (rows : List α) : (memory.atMost limit rows).Sublist rows := by
  rw [atMost]
  split
  · exact .refl _
  · exact List.take_sublist _ _

end Engine

end

/-! ## What is around a place -/

/-- The points inside a window. -/
def Tables.inside (w : Window) (t : Tables) : List GeoPoint :=
  t.points.rows.filter fun p => w.contains p.longitude p.latitude

theorem Tables.findInWindow_eq (e : Engine) {w : Window} {limit : Nat} {t : Tables}
    (word : limit < 2 ^ 64) (few : t.Few) :
    t.findInWindow e w limit = Engine.memory.atMost limit (t.inside w) :=
  e.atMost_agrees word (Nat.le_trans (List.length_filter_le _ _) few.points)

namespace Geocoding

/-- What is answered to a search around a place, for each limit. -/
structure Surroundings (longitude latitude radius : Float) (t : Tables)
    (answer : Nat → List GeoPoint) : Prop where
  increasing : ∀ limit, (answer limit).Pairwise fun p q => p.id < q.id
  /-- Without a limit these are the points in the window and within the radius. -/
  unlimited : ∀ p, p ∈ answer 0 ↔ p ∈ t.points.rows ∧
    (Window.around longitude latitude radius).contains p.longitude p.latitude = true ∧
    p.distanceTo latitude longitude ≤ radius
  /-- A limit leaves out those in front of which the window holds as many points. -/
  limited : ∀ limit, 0 < limit → ∀ p, p ∈ answer limit ↔ p ∈ answer 0 ∧
    (t.inside (.around longitude latitude radius)).countP (fun q => q.id < p.id) < limit
  extended : ∀ limit limit', limit' = 0 ∨ 0 < limit ∧ limit ≤ limit' →
    answer limit <+: answer limit'

/-- The points that a limit allows, without those that are too far away. -/
def around (longitude latitude radius : Float) (t : Tables) (limit : Nat) : List GeoPoint :=
  (Engine.memory.atMost limit (t.inside (.around longitude latitude radius))).filter
    fun p => p.distanceTo latitude longitude ≤ radius

theorem around_surroundings (longitude latitude radius : Float) (t : Tables) :
    Surroundings longitude latitude radius t (around longitude latitude radius t) := by
  have ordered := t.points.increasing.filter fun p =>
    (Window.around longitude latitude radius).contains p.longitude p.latitude
  constructor
  case increasing =>
    intro limit
    exact (ordered.sublist (Engine.atMost_sublist limit _)).filter _
  case unlimited =>
    intro p
    rw [around, Engine.atMost, if_pos rfl, Tables.inside, List.mem_filter, List.mem_filter,
      and_assoc, decide_eq_true_iff]
  case limited =>
    intro limit pos p
    have first : p ∈ (t.inside _).take limit ↔ _ := mem_take_iff ordered
    rw [around, around, Engine.atMost, Engine.atMost, if_neg pos.ne', if_pos rfl,
      List.mem_filter, List.mem_filter, and_right_comm]
    exact and_congr_left fun _ => first
  case extended =>
    intro limit limit' h
    exact (Engine.atMost_prefix h _).filter _

theorem nearby_eq {longitude latitude radius : Float} (east : isLongitude longitude = true)
    (north : isLatitude latitude = true) (finite : Decimal.isFinite radius = true)
    (nonneg : 0 ≤ radius) {limit : Nat} (word : limit < 2 ^ 64) {d : Directory}
    (few : d.tables.Few) :
    nearby longitude latitude radius limit d =
      (.ok (around longitude latitude radius d.tables limit), d) := by
  have bounded : (Decimal.isFinite radius && !(radius < 0)) = true := by
    simp [finite, not_neg_of_nonneg nonneg]
  have inside : d.tables.findInWindow d.engine (.around longitude latitude radius) limit = _ :=
    Tables.findInWindow_eq d.engine word few
  rw [nearby, requireLongitude, requireLatitude, requireRadius, require, require, require,
    if_pos east, if_pos north, if_pos bounded]
  exact congrArg (fun points => (Except.ok (List.filter _ points), d)) inside

/-- Whatever was done before, the search around a valid place answers what a limit allows, and it
answers the same points in the order of their ids if the rows are kept by the other engine, or if
the same was done with the other engine. -/
theorem nearby_surroundings (e : Engine) (moment : Timestamp) (steps : List Step)
    (words : (advance steps (.empty e moment)).tables.InWords) {longitude latitude radius : Float}
    (east : isLongitude longitude = true) (north : isLatitude latitude = true)
    (finite : Decimal.isFinite radius = true) (nonneg : 0 ≤ radius) :
    let d := advance steps (.empty e moment)
    (∃ answer, Surroundings longitude latitude radius d.tables answer ∧
      ∀ limit < 2 ^ 64, ∀ e', nearby longitude latitude radius limit { d with engine := e' } =
        (.ok (answer limit), { d with engine := e' })) ∧
    ∀ e' moment' steps', List.Forall₂ Step.Repeats steps steps' →
      (advance steps' (.empty e' moment')).tables.InWords → ∀ limit < 2 ^ 64,
        Alike (List.map GeoPoint.bare) (nearby longitude latitude radius limit d)
          (nearby longitude latitude radius limit (advance steps' (.empty e' moment'))) := by
  intro d
  have few : d.tables.Few := Attainable.few ⟨e, moment, steps, rfl⟩ words
  constructor
  · refine ⟨_, around_surroundings longitude latitude radius d.tables, fun limit word e' => ?_⟩
    exact nearby_eq east north finite nonneg word few
  · intro e' moment' steps' same words' limit word
    have few' := Attainable.few ⟨e', moment', steps', rfl⟩ words'
    have views : d.view = (advance steps' (.empty e' moment')).view := advance_view same rfl
    exact nearby_alike views longitude latitude radius ⟨word, few.points⟩ ⟨word, few'.points⟩

/-- Two shops of a bakery, one of which is looked for in either engine. -/
theorem shops_surroundings :
    let ada : Principal := ⟨1, "ada"⟩
    let bakery : MerchantFields := { MerchantFields.blank with title := "Bakery" }
    let shop (longitude : Float) (address : String) : GeoPointDraft :=
      ⟨some 1, Merchants.source, longitude, 52, address, 90, "\x7b\x7d"⟩
    let steps : List Step := [.call ⟨ada, default, .merchants (.create ⟨bakery, [], [], false⟩)⟩,
      .call ⟨ada, default, .points (.create (shop 13 "Main Street 1"))⟩,
      .call ⟨ada, default, .points (.create (shop 14 "Main Street 2"))⟩]
    let d (e : Engine) := advance steps (.empty e default)
    (∀ e, (d e).tables.InWords) ∧ isLongitude 13.5 = true ∧ isLatitude 52 = true ∧
      Decimal.isFinite 100 = true ∧ (0 : Float) ≤ 100 ∧ List.Forall₂ Step.Repeats steps steps ∧
      (∃ answer, Surroundings 13.5 52 100 (d .sqlite).tables answer ∧
        nearby 13.5 52 100 1 (d .sqlite) = (.ok (answer 1), d .sqlite)) ∧
      Alike (List.map GeoPoint.bare) (nearby 13.5 52 100 1 (d .sqlite))
        (nearby 13.5 52 100 1 (d .memory)) := by
  intro ada bakery shop steps d
  have given (e : Engine) : (d e).tables.merchants.last = 1 ∧ (d e).tables.tags.last = 0 ∧
      (d e).tables.points.last = 2 := by cases e <;> decide +kernel
  have words (e : Engine) : (d e).tables.InWords := by
    obtain ⟨merchants, tags, points⟩ := given e
    exact ⟨by omega, by omega, by omega⟩
  have east : isLongitude 13.5 = true := by decide +kernel
  have north : isLatitude 52 = true := by decide +kernel
  have finite : Decimal.isFinite 100 = true := by decide +kernel
  have nonneg : (0 : Float) ≤ 100 := by decide +kernel
  have same : List.Forall₂ Step.Repeats steps steps :=
    .cons (.call ⟨rfl, rfl⟩) (.cons (.call ⟨rfl, rfl⟩) (.cons (.call ⟨rfl, rfl⟩) .nil))
  obtain ⟨⟨answer, all, answered⟩, agree⟩ :=
    nearby_surroundings .sqlite default steps (words .sqlite) east north finite nonneg
  refine ⟨words, east, north, finite, nonneg, same, ⟨answer, all, ?_⟩, ?_⟩
  · exact answered 1 (by decide) (d .sqlite).engine
  · exact agree .memory default steps same (words .memory) 1 (by decide)

end Geocoding

end Gazetteer
