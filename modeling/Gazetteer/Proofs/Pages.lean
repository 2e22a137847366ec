import Gazetteer.Proofs.InFlight
import Gazetteer.Proofs.Selection
import Gazetteer.Wire.Base

/-!
# Pages make up the list

Whoever asks for one page after another gets every row of the list once and in order, whichever
engine cuts the pages, and is told on every page how long the list is.

* `Tables.InWords`, `Attainable.few`: ids are words, so there are not too many rows for them.
* `Paging.flatMap_cut`: the pages of a list, put together.
* `Paged`: what is asked of a list that is answered page by page.
* `seek_paged`: a search is answered so.
* `pages_partition`: all lists are.
-/

set_option autoImplicit false

namespace Gazetteer

/-! ## How many rows there are -/

namespace Table

variable {α : Type} [Keyed α] {t : Table α}

/-- Ids that were given out one after another are at least as many as the rows. -/
theorem length_le_last (h : empty.Grows t) : (t.rows.length : Int) ≤ t.last := by
  have within : (t.rows.map key).toFinset ⊆ Finset.Icc 1 t.last := by
    intro i hi
    obtain ⟨r, hr, rfl⟩ := List.mem_map.1 (List.mem_toFinset.1 hi)
    obtain new | ⟨old, hold, _⟩ := h.rows r hr
    · exact Finset.mem_Icc.2 ⟨new, t.bounded r hr⟩
    · cases hold
  have counted := Finset.card_le_card within
  rw [List.toFinset_card_of_nodup t.keys_nodup, List.length_map, Int.card_Icc] at counted
  have start : (0 : Int) ≤ t.last := h.last
  omega

end Table

theorem Geocoding.Saved.grows {address source : String} {metadata : Json.Object} {d : Directory}
    {r : Except Failure GeoPoint × Directory} (h : Saved address source metadata d r) :
    d.tables.Grows r.2.tables := by
  cases h with
  | refused e ls => exact .refl _
  | onRecord p record => exact .refl _
  | added answer ls r new valid made =>
    subst made
    exact ⟨.refl _, .refl _, Table.grows_insert _ _⟩

theorem Geocoding.Linked.grows {job : Job} {d : Directory}
    {r : Except Failure GeoPoint × Directory} (h : Linked job d r) :
    d.tables.Grows r.2.tables := by
  cases h with
  | loose p d' nobody saved => exact saved.grows
  | adopted m p d' hm saved free =>
    exact saved.grows.trans ⟨.refl _, .refl _, Table.grows_modify _ _ _⟩
  | copied m holder p recorded r hm record other ne none origin valid made =>
    subst made
    exact ⟨.refl _, .refl _, Table.grows_insert _ _⟩
  | _ => exact .refl _

theorem Attainable.grows {d : Directory} (reached : Attainable d) : Tables.empty.Grows d.tables :=
  reached.tables_keep (P := fun _ t => Tables.empty.Grows t) (fun _ => .refl _)
    (fun w before => before.trans w.grows) fun linked before => before.trans linked.grows

/-- The ids that were given out are signed words. -/
structure Tables.InWords (t : Tables) : Prop where
  merchants : t.merchants.last < 2 ^ 63
  tags : t.tags.last < 2 ^ 63
  points : t.points.last < 2 ^ 63

/-- The tables have fewer rows than there are ids. -/
structure Tables.Few (t : Tables) : Prop where
  merchants : t.merchants.rows.length ≤ 2 ^ 63
  tags : t.tags.rows.length ≤ 2 ^ 63
  points : t.points.rows.length ≤ 2 ^ 63

theorem Attainable.few {d : Directory} (reached : Attainable d) (words : d.tables.InWords) :
    d.tables.Few := by
  have merchants := Table.length_le_last reached.grows.merchants
  have tags := Table.length_le_last reached.grows.tags
  have points := Table.length_le_last reached.grows.points
  obtain ⟨merchantIds, tagIds, pointIds⟩ := words
  exact ⟨by omega, by omega, by omega⟩

/-! ## Pages of a list -/

namespace Paging

variable {α : Type}

/-- How many pages a list has. -/
def pageCount (total perPage : Nat) : Nat := (total + perPage - 1) / perPage

theorem le_pageCount_mul (total : Nat) {n : Nat} (hn : 0 < n) : total ≤ pageCount total n * n := by
  have full := Nat.lt_div_mul_add (a := total + n - 1) hn
  rw [pageCount]
  omega

/-- Every page but those past the last one begins in front of the end. -/
theorem offset_lt {total i n : Nat} (hi : 0 < i) (last : i ≤ pageCount total n) (hn : 0 < n) :
    (i - 1) * n < total := by
  have started := (Nat.le_div_iff_mul_le hn).1 last
  have split : i * n = (i - 1) * n + n := by
    rw [← Nat.succ_mul, Nat.succ_eq_add_one, Nat.sub_add_cancel hi]
  omega

theorem le_offset {total i n : Nat} (past : pageCount total n < i) (hn : 0 < n) :
    total ≤ (i - 1) * n :=
  Nat.le_trans (le_pageCount_mul total hn) (Nat.mul_le_mul_right n (by omega))

/-- The first pages of a list hold what it begins with. -/
theorem flatMap_cut_take (rows : List α) {n : Nat} (hn : 0 < n) (k : Nat)
    (offsets : ∀ i < k, i * n < 2 ^ 64) :
    (List.range' 1 k).flatMap (fun i => cut ⟨i, n⟩ rows) = rows.take (k * n) := by
  induction k with
  | zero => simp
  | succ k ih =>
    have offset : (1 + k - 1) * n < 2 ^ 64 := by
      rw [Nat.add_sub_cancel_left]
      exact offsets k k.lt_succ_self
    have next : cut ⟨1 + k, n⟩ rows = (rows.drop (k * n)).take n := by
      rw [cut_of_pos (by omega) hn offset, Nat.add_sub_cancel_left]
    have first := ih fun i hi => offsets i (Nat.lt_succ_of_lt hi)
    rw [List.range'_1_concat, List.flatMap_append, first, List.flatMap_singleton, next,
      Nat.succ_mul, List.take_add]

theorem flatMap_cut {rows : List α} (few : rows.length ≤ 2 ^ 63) {n : Nat} (hn : 0 < n) :
    (List.range' 1 (pageCount rows.length n)).flatMap (fun i => cut ⟨i, n⟩ rows) = rows := by
  have offsets : ∀ i < pageCount rows.length n, i * n < 2 ^ 64 := by
    intro i hi
    have inside : i * n < rows.length := offset_lt (i := i + 1) i.succ_pos hi hn
    omega
  rw [flatMap_cut_take rows hn _ offsets, List.take_of_length_le (le_pageCount_mul _ hn)]

theorem cut_past {p : Paging} {rows : List α} (hn : 0 < p.perPage)
    (offset : (p.page - 1) * p.perPage < 2 ^ 64)
    (past : pageCount rows.length p.perPage < p.page) : p.cut rows = [] := by
  have page : p.cut rows = (rows.drop ((p.page - 1) * p.perPage)).take p.perPage :=
    cut_of_pos (Nat.zero_lt_of_lt past) hn offset rows
  rw [page, List.drop_of_length_le (le_offset past hn), List.take_nil]

end Paging

/-! ## Lists that are answered page by page -/

/-- The rows are those that satisfy a condition, each of them once and in the order of ids. -/
structure Listed {α : Type} [Keyed α] (rows : List α) (p : α → Prop) : Prop where
  increasing : rows.Pairwise fun a b => key a < key b
  exact : ∀ r, r ∈ rows ↔ p r

/-- A list of rows is answered page by page. -/
structure Paged {β : Type} (rows : List β) (ask : Paging → Except Failure (Page β)) : Prop where
  /-- A zero in either number asks for the whole list. -/
  whole : ∀ p, p.page = 0 ∨ p.perPage = 0 → ask p = .ok ⟨rows, rows.length⟩
  /-- Every page says how long the list is. -/
  counted : ∀ p, ∃ items, ask p = .ok ⟨items, rows.length⟩
  /-- The pages one after another are the list. -/
  joined : ∀ n, 0 < n → n < 2 ^ 64 → ∃ pages,
    (List.range' 1 (Paging.pageCount rows.length n)).mapM (fun i => ask ⟨i, n⟩) = .ok pages ∧
      pages.flatMap Page.items = rows ∧ ∀ page ∈ pages, page.total = rows.length
  /-- Behind them there is nothing. -/
  past : ∀ p, p.InWords → 0 < p.perPage → Paging.pageCount rows.length p.perPage < p.page →
    ask p = .ok ⟨[], rows.length⟩

theorem mapM_ok {α β ε : Type} {f : α → Except ε β} {g : α → β} {xs : List α}
    (h : ∀ x ∈ xs, f x = .ok (g x)) : xs.mapM f = .ok (xs.map g) := by
  induction xs with
  | nil => rfl
  | cons x rest ih =>
    rw [List.mapM_cons, h x List.mem_cons_self, ih fun y hy => h y (List.mem_cons_of_mem _ hy)]
    rfl

variable {α β : Type} {rows : List α} {ask : Paging → Except Failure (Page α)}

/-- A list is answered page by page when every page that words can ask for is cut out of it. -/
theorem Paged.of_cut {page : Paging → List α} (few : rows.length ≤ 2 ^ 63)
    (answered : ∀ p, ask p = .ok ⟨page p, rows.length⟩)
    (whole : ∀ p : Paging, p.window = none → page p = rows)
    (cut : ∀ p : Paging, p.InWords → page p = p.cut rows) : Paged rows ask where
  whole p none := by rw [answered, whole p (Paging.window_none none)]
  counted p := ⟨page p, answered p⟩
  joined := by
    intro n pos word
    have each : ∀ i ∈ List.range' 1 (Paging.pageCount rows.length n),
        ask ⟨i, n⟩ = .ok ⟨Paging.cut ⟨i, n⟩ rows, rows.length⟩ := by
      intro i hi
      obtain ⟨first, last⟩ := List.mem_range'_1.1 hi
      have inside : (i - 1) * n < rows.length := Paging.offset_lt first (by omega) pos
      rw [answered, cut ⟨i, n⟩ ⟨Nat.lt_of_lt_of_le inside few, word⟩]
    refine ⟨_, mapM_ok each, ?_, ?_⟩
    · rw [List.flatMap_map]
      exact Paging.flatMap_cut few pos
    · intro page hpage
      obtain ⟨i, _, rfl⟩ := List.mem_map.1 hpage
      rfl
  past p words pos past := by
    rw [answered, cut p words, Paging.cut_past pos words.word past]

/-! ## Searches -/

namespace Engine

variable {e : Engine} {search : String} {scope : List α}

/-- A search that is tried is answered page by page, with whatever is put into the rows. -/
theorem seek_paged (tried : e.Refuses search → scope = []) (few : scope.length ≤ 2 ^ 63)
    (texts : α → List String) (f : α → β) :
    Paged ((scope.filter fun r => e.hits search (texts r)).map f) fun p =>
      ((e.seek search texts p scope).map Page.found).map (Page.map f) := by
  have fewer : (scope.filter fun r => e.hits search (texts r)).length ≤ 2 ^ 63 :=
    Nat.le_trans (List.length_filter_le _ scope) few
  have answered (p : Paging) : ((e.seek search texts p scope).map Page.found).map (Page.map f) =
      .ok ⟨(e.page p (scope.filter fun r => e.hits search (texts r))).map f,
        ((scope.filter fun r => e.hits search (texts r)).map f).length⟩ := by
    rw [seek_tried tried, List.length_map]
    rfl
  refine .of_cut (by rwa [List.length_map]) answered ?_ ?_
  · intro p none
    rw [e.page_whole none]
  · intro p words
    rw [e.page_agrees words fewer, Paging.cut_map]

end Engine

/-- Rows that were taken from a table and found by a search. -/
theorem Table.listed_filter {α : Type} [Keyed α] (t : Table α) {p q : α → Bool} {c : α → Prop}
    (same : ∀ r, p r = true ↔ c r) :
    Listed ((t.rows.filter p).filter q) fun r => r ∈ t.rows ∧ c r ∧ q r = true where
  increasing := (t.increasing.filter p).filter q
  exact r := by rw [List.mem_filter, List.mem_filter, and_assoc, same]

/-! ## The three lists -/

namespace Tables

variable (e : Engine) {owner merchant : Int} {category : Option String} (search : String)
  (t : Tables)

theorem foundMerchants_listed : Listed (t.foundMerchants e owner search) fun m =>
    m ∈ t.merchants.rows ∧ m.owner = owner ∧ e.hits search (merchantTexts m) = true :=
  t.merchants.listed_filter fun _ => decide_eq_true_iff

theorem foundTags_listed : Listed (t.foundTags e owner search category) fun tag =>
    tag ∈ t.tags.rows ∧ (tag.owner = owner ∧ ∀ c, category = some c → tag.category = c) ∧
      e.hits search (tagTexts tag) = true := by
  refine t.tags.listed_filter fun tag => ?_
  cases category <;> simp

theorem foundPoints_listed : Listed (t.foundPoints e merchant search) fun p =>
    p ∈ t.points.rows ∧ p.merchant = some merchant ∧ e.hits search (pointTexts p) = true :=
  t.points.listed_filter fun _ => decide_eq_true_iff

variable {e search t}

theorem foundMerchants_paged (few : t.Few) (tried : e.Refuses search → t.merchantsOf owner = [])
    (f : Merchant → β) : Paged ((t.foundMerchants e owner search).map f) fun p =>
      ((t.findMerchants e owner search p).map Page.found).map (Page.map f) :=
  Engine.seek_paged tried (Nat.le_trans (List.length_filter_le _ _) few.merchants) merchantTexts f

theorem foundTags_paged (few : t.Few) (tried : e.Refuses search → t.tagsOf owner category = [])
    (f : Tag → β) : Paged ((t.foundTags e owner search category).map f) fun p =>
      ((t.findTags e owner search category p).map Page.found).map (Page.map f) :=
  Engine.seek_paged tried (Nat.le_trans (List.length_filter_le _ _) few.tags) tagTexts f

theorem foundPoints_paged (few : t.Few) (tried : e.Refuses search → t.pointsOf merchant = [])
    (f : GeoPoint → β) : Paged ((t.foundPoints e merchant search).map f) fun p =>
      ((t.findPoints e merchant search p).map Page.found).map (Page.map f) :=
  Engine.seek_paged tried (Nat.le_trans (List.length_filter_le _ _) few.points) pointTexts f

end Tables

theorem Page.map_id {α : Type} (r : Except Failure (Page α)) : r.map (Page.map id) = r := by
  cases r with
  | error e => rfl
  | ok page => exact congrArg (fun items => Except.ok (Page.mk items page.total)) (List.map_id _)

/-- Whatever was done before: each list holds the rows that are asked for once and in the order of
their ids, its pages make it up and count it, in the tables and as callers are answered, unless the
database does not try the search. A page travels with the number of its own items. -/
theorem pages_partition {d : Directory} (reached : Attainable d) (words : d.tables.InWords)
    (search : String) :
    (∀ owner, (d.engine.Refuses search → d.tables.merchantsOf owner = []) →
      ∃ rows : List Merchant,
        Listed rows (fun m => m ∈ d.tables.merchants.rows ∧ m.owner = owner ∧
          d.engine.hits search (Tables.merchantTexts m) = true) ∧
        Paged rows (fun p => (d.tables.findMerchants d.engine owner search p).map Page.found) ∧
        ∀ who : Principal, who.id = owner →
          Paged (rows.map (d.tables.detailed who)) fun p => (Merchants.list who search p d).1) ∧
    (∀ owner category, (d.engine.Refuses search → d.tables.tagsOf owner category = []) →
      ∃ rows : List Tag,
        Listed rows (fun t => t ∈ d.tables.tags.rows ∧
          (t.owner = owner ∧ ∀ c, category = some c → t.category = c) ∧
          d.engine.hits search (Tables.tagTexts t) = true) ∧
        Paged rows (fun p =>
          (d.tables.findTags d.engine owner search category p).map Page.found) ∧
        ∀ (who : Principal) (asked : Option String), who.id = owner →
          asked.filter (!·.isEmpty) = category →
          Paged (rows.map (·.asSeenBy who)) fun p => (Tags.list who search asked p d).1) ∧
    (∀ merchant, (d.engine.Refuses search → d.tables.pointsOf merchant = []) →
      ∃ rows : List GeoPoint,
        Listed rows (fun p => p ∈ d.tables.points.rows ∧ p.merchant = some merchant ∧
          d.engine.hits search (Tables.pointTexts p) = true) ∧
        Paged rows (fun p => (d.tables.findPoints d.engine merchant search p).map Page.found) ∧
        ∀ who : Principal, Points.requireMerchant who merchant d.tables = .ok () →
          Paged rows fun p => (Points.list who merchant search p d).1) ∧
    ∀ (β : Type) (item : β → Json) (page : Page β), ∃ members,
      Wire.pageJson item page = .object members ∧
        Json.get? "result_count" members = some (.int page.items.length) ∧
        Json.get? "total_items" members = some (.int page.total) := by
  have few := reached.few words
  refine ⟨?merchants, ?tags, ?points, fun _ _ _ => ⟨_, rfl, rfl, rfl⟩⟩
  case merchants =>
    intro owner tried
    refine ⟨_, d.tables.foundMerchants_listed d.engine search, ?_, ?_⟩
    · simpa only [Page.map_id, List.map_id] using Tables.foundMerchants_paged few tried id
    · rintro who rfl
      simp only [Merchants.list_eq]
      exact Tables.foundMerchants_paged few tried _
  case tags =>
    intro owner category tried
    refine ⟨_, d.tables.foundTags_listed d.engine search, ?_, ?_⟩
    · simpa only [Page.map_id, List.map_id] using Tables.foundTags_paged few tried id
    · rintro who asked rfl rfl
      simp only [Tags.list_eq]
      exact Tables.foundTags_paged few tried _
  case points =>
    intro merchant tried
    have paged := Tables.foundPoints_paged few tried id
    simp only [Page.map_id, List.map_id] at paged
    refine ⟨_, d.tables.foundPoints_listed d.engine search, paged, ?_⟩
    intro who own
    simp only [Points.list_eq own]
    exact paged

/-- Three merchants in one street, which are sought in the database. -/
theorem street_partitioned :
    let ada : Principal := ⟨1, "ada"⟩
    let fields (title : String) : MerchantFields :=
      { MerchantFields.blank with title := title, address := "Main Street" }
    let steps : List Step := ["Bakery", "Butcher", "Cafe"].map fun title =>
      .call ⟨ada, default, .merchants (.create ⟨fields title, [], [], false⟩)⟩
    let d := advance steps (.empty .sqlite default)
    Attainable d ∧ d.tables.InWords ∧ (d.engine.Refuses "street" → d.tables.merchantsOf 1 = []) ∧
      ∃ rows : List Merchant,
        Listed rows (fun m => m ∈ d.tables.merchants.rows ∧ m.owner = 1 ∧
          d.engine.hits "street" (Tables.merchantTexts m) = true) ∧
        Paged (rows.map (d.tables.detailed ada)) fun p => (Merchants.list ada "street" p d).1 := by
  intro ada fields steps d
  have reached : Attainable d := ⟨.sqlite, default, steps, rfl⟩
  have given : d.tables.merchants.last = 3 ∧ d.tables.tags.last = 0 ∧ d.tables.points.last = 0 := by
    decide +kernel
  have short : ¬Like.maxBytes < Like.byteSize (Like.pattern "street".toList) := by decide
  clear_value d
  obtain ⟨merchants, tags, points⟩ := given
  have words : d.tables.InWords := ⟨by omega, by omega, by omega⟩
  have tried : d.engine.Refuses "street" → d.tables.merchantsOf 1 = [] :=
    fun refused => absurd refused.2 short
  obtain ⟨rows, listed, _, paged⟩ := (pages_partition reached words "street").1 1 tried
  exact ⟨reached, words, tried, rows, listed, paged ada rfl⟩

end Gazetteer
