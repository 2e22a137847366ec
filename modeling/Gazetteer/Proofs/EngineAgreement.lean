import Gazetteer.Proofs.CallsAlike
import Mathlib

/-!
# The engines are interchangeable

The same commands, given by the same callers in the same order, are answered alike by both engines,
announce the same and leave directories that look the same, after every step.

* `Reply.bare`: an answer without what the engines may keep differently.
* `Command.perform_alike`: one command.
* `Turn.Repeats`: the same command of the same caller, at another moment.
* `engines_agree`: whole runs.
-/

set_option autoImplicit false

namespace Gazetteer

/-- The answer without dates, its numbers by their value; tags inside merchants have no
permission. -/
def Reply.bare : Reply → Reply
  | .done => .done
  | .merchant m => .merchant m.bare
  | .merchants page => .merchants (page.map Merchant.bare)
  | .tag t => .tag t.timeless
  | .tags page => .tags (page.map Tag.timeless)
  | .point p => .point p.bare
  | .points page => .points (page.map GeoPoint.bare)
  | .place r => .place r
  | .found ps => .found (ps.map GeoPoint.bare)
  | .report r => .report r.bare

/-! ## Commands -/

section

variable {who : Principal} {d d' : Directory}

theorem MerchantCommand.perform_alike (h : d.view = d'.view) (c : MerchantCommand)
    (hc : (Command.merchants c).Comparable Agreed d.tables)
    (hc' : (Command.merchants c).Comparable Agreed d'.tables) :
    Alike Reply.bare (c.perform who d) (c.perform who d') := by
  cases c with
  | create draft =>
    exact (Merchants.create_alike h draft).map fun _ _ => congrArg Reply.merchant
  | find id => exact (Merchants.find_alike h id).map fun _ _ => congrArg Reply.merchant
  | list search paging =>
    exact (Merchants.list_alike h hc hc').map fun _ _ => congrArg Reply.merchants
  | update id u => exact (Merchants.update_alike h id u).map fun _ _ => congrArg Reply.merchant
  | delete id => exact (Merchants.delete_alike h id).map fun _ _ _ => rfl
  | geocode chain id =>
    exact (Merchants.geocode_alike h chain id).map fun _ _ => congrArg Reply.merchant

theorem TagCommand.perform_alike (h : d.view = d'.view) (c : TagCommand)
    (hc : (Command.tags c).Comparable Agreed d.tables)
    (hc' : (Command.tags c).Comparable Agreed d'.tables) :
    Alike Reply.bare (c.perform who d) (c.perform who d') := by
  cases c with
  | create draft => exact (Tags.create_alike h draft).map fun _ _ => congrArg Reply.tag
  | find id => exact (Tags.find_alike h id).map fun _ _ => congrArg Reply.tag
  | list search category paging =>
    exact (Tags.list_alike h hc hc').map fun _ _ => congrArg Reply.tags
  | update id draft => exact (Tags.update_alike h id draft).map fun _ _ => congrArg Reply.tag
  | delete id => exact (Tags.delete_alike h id).map fun _ _ _ => rfl

theorem PointCommand.perform_alike (h : d.view = d'.view) (c : PointCommand)
    (hc : (Command.points c).Comparable Agreed d.tables)
    (hc' : (Command.points c).Comparable Agreed d'.tables) :
    Alike Reply.bare (c.perform who d) (c.perform who d') := by
  cases c with
  | create draft => exact (Points.create_alike h draft).map fun _ _ => congrArg Reply.point
  | find id => exact (Points.find_alike h id).map fun _ _ => congrArg Reply.point
  | list merchant search paging =>
    exact (Points.list_alike h hc hc').map fun _ _ => congrArg Reply.points
  | update id draft => exact (Points.update_alike h id draft).map fun _ _ => congrArg Reply.point
  | delete id => exact (Points.delete_alike h id).map fun _ _ _ => rfl

theorem GeocodingCommand.perform_alike (h : d.view = d'.view) (c : GeocodingCommand)
    (hc : (Command.geocoding c).Comparable Agreed d.tables)
    (hc' : (Command.geocoding c).Comparable Agreed d'.tables) :
    Alike Reply.bare (c.perform d) (c.perform d') := by
  cases c with
  | resolve chain address =>
    exact (Geocoding.resolve_alike h chain address).map fun _ _ => congrArg Reply.place
  | save chain address source metadata =>
    exact (Geocoding.save_alike h chain address source metadata).map
      fun _ _ => congrArg Reply.point
  | link chain job => exact (Geocoding.link_alike h chain job).map fun _ _ => congrArg Reply.point
  | batch chain source addresses =>
    exact (Geocoding.batch_alike h chain source addresses).map fun _ _ => congrArg Reply.found
  | nearby longitude latitude radius limit =>
    exact (Geocoding.nearby_alike h longitude latitude radius hc hc').map
      fun _ _ => congrArg Reply.found

theorem ImportCommand.perform_alike (h : d.view = d'.view) (c : ImportCommand) :
    Alike Reply.bare (c.perform who d) (c.perform who d') := by
  rw [perform]
  refine .bind (Import.importBytes_alike h c.importer c.autoGeocode c.bytes) ?_
  intro r r' d d' _ _ hr h
  refine .bind (Geocoding.drain_alike h c.schedule c.chain) ?_
  intro _ _ d d' _ _ _ h
  exact .ok (congrArg Reply.report hr) h

theorem Command.perform_alike (h : d.view = d'.view) (c : Command)
    (hc : c.Comparable Agreed d.tables) (hc' : c.Comparable Agreed d'.tables) :
    Alike Reply.bare (c.perform who d) (c.perform who d') := by
  cases c with
  | merchants c => exact c.perform_alike h hc hc'
  | tags c => exact c.perform_alike h hc hc'
  | points c => exact c.perform_alike h hc hc'
  | geocoding c => exact c.perform_alike h hc hc'
  | importFile c => exact c.perform_alike h

end

/-! ## Runs -/

/-- The same command of the same caller, at whatever moment. -/
def Turn.Repeats (t t' : Turn) : Prop := t.who = t'.who ∧ t.command = t'.command

/-- Every command of the run can be compared when its turn comes. -/
def ComparableAlong (allowed : Char → Prop) : List Turn → Directory → Prop
  | [], _ => True
  | t :: rest, d =>
    t.command.Comparable allowed d.tables ∧ ComparableAlong allowed rest (t.take d).2

theorem Turn.take_alike {t t' : Turn} {d d' : Directory} (h : d.view = d'.view)
    (same : t.Repeats t') (hc : t.command.Comparable Agreed d.tables) :
    Alike Reply.bare (t.take d) (t'.take d') := by
  obtain ⟨who, command⟩ := same
  have hc' : t.command.Comparable Agreed d'.tables := by
    rw [← Command.comparable_view, ← Directory.tables_of_view h, Command.comparable_view]
    exact hc
  have clocks : Directory.view { d with now := t.moment } =
      Directory.view { d' with now := t'.moment } := h
  rw [take, take, ← who, ← command]
  exact t.command.perform_alike clocks hc hc'

theorem trace_alike {turns turns' : List Turn} (same : List.Forall₂ Turn.Repeats turns turns')
    {d d' : Directory} (h : d.view = d'.view) (hc : ComparableAlong Agreed turns d) :
    List.Forall₂ (Alike Reply.bare) (trace turns d) (trace turns' d') := by
  -- one turn hands the next two directories with one view, and nothing else is needed
  induction same generalizing d d' with
  | nil => exact .nil
  | cons first _ ih =>
    obtain ⟨now, later⟩ := hc
    have taken := Turn.take_alike h first now
    exact .cons taken (ih taken.state later)

/-- The same commands on an empty directory of either engine: at every step the answers are the same
up to what the engines may keep differently, and so are the events and the tables. -/
theorem engines_agree (moment moment' : Timestamp) (turns turns' : List Turn)
    (same : List.Forall₂ Turn.Repeats turns turns')
    (comparable : ComparableAlong Agreed turns (.empty .memory moment)) :
    List.Forall₂ (Alike Reply.bare) (trace turns (.empty .memory moment))
      (trace turns' (.empty .sqlite moment')) :=
  trace_alike same rfl comparable

/-- A merchant is entered and sought by a part of its title. -/
theorem engines_agree_on_search :
    let ada : Principal := ⟨1, "ada"⟩
    let draft : MerchantDraft :=
      ⟨⟨"Bakery", "", "", "", "", "", none, none, "", 0, "", 0⟩, [5], [], true⟩
    let turns : List Turn := [⟨ada, default, .merchants (.create draft)⟩,
      ⟨ada, default, .merchants (.list "BAKE" ⟨1, 10⟩)⟩]
    ComparableAlong Agreed turns (.empty .memory default) ∧
      List.Forall₂ (Alike Reply.bare) (trace turns (.empty .memory default))
        (trace turns (.empty .sqlite default)) := by
  intro ada draft turns
  have texts : (run (turns.take 1) (.empty .memory default)).tables.allMerchantTexts =
      ["Bakery", "", "", ""] := by cbv
  have sought : Sought Agreed "BAKE" ["Bakery", "", "", ""] := by decide
  have rows : (run (turns.take 1) (.empty .memory default)).tables.merchants.rows.length = 1 := by
    cbv
  have comparable : ComparableAlong Agreed turns (.empty .memory default) :=
    ⟨trivial, ⟨texts ▸ sought, ⟨by decide, by decide⟩, rows ▸ by decide⟩, trivial⟩
  have same : List.Forall₂ Turn.Repeats turns turns :=
    .cons ⟨rfl, rfl⟩ (.cons ⟨rfl, rfl⟩ .nil)
  exact ⟨comparable, engines_agree default default turns turns same comparable⟩

/-- How many merchants a reply counts. -/
def foundTotal : Except Failure Reply → Nat
  | .ok (.merchants page) => page.total
  | _ => 0

theorem foundTotal_bare (r : Except Failure Reply) :
    foundTotal (r.map Reply.bare) = foundTotal r := by
  cases r with
  | error e => rfl
  | ok reply => cases reply <;> rfl

theorem foundTotals_of_alike {rs rs' : List (Except Failure Reply × Directory)}
    (h : List.Forall₂ (Alike Reply.bare) rs rs') :
    rs.map (fun r => foundTotal r.1) = rs'.map fun r => foundTotal r.1 := by
  induction h with
  | nil => rfl
  | cons first _ ih =>
    rw [List.map_cons, List.map_cons, ih, ← foundTotal_bare, first.answer, foundTotal_bare]

/-- Without `Verbatim` the engines differ: in a pattern the database reads U+FFFE as U+FFFD. -/
theorem engines_differ_on_noncharacters :
    let ada : Principal := ⟨1, "ada"⟩
    let draft : MerchantDraft :=
      ⟨⟨"\uFFFD", "", "", "", "", "", none, none, "", 0, "", 0⟩, [], [], false⟩
    let turns : List Turn := [⟨ada, default, .merchants (.create draft)⟩,
      ⟨ada, default, .merchants (.list "\uFFFE" .all)⟩]
    ComparableAlong AsciiCased turns (.empty .memory default) ∧
      ¬ List.Forall₂ (Alike Reply.bare) (trace turns (.empty .memory default))
        (trace turns (.empty .sqlite default)) := by
  intro ada draft turns
  constructor
  · have texts : (run (turns.take 1) (.empty .memory default)).tables.allMerchantTexts =
        ["\uFFFD", "", "", ""] := by cbv
    have sought : Sought AsciiCased "\uFFFE" ["\uFFFD", "", "", ""] := by decide
    have rows : (run (turns.take 1) (.empty .memory default)).tables.merchants.rows.length =
        1 := by cbv
    exact ⟨trivial, ⟨texts ▸ sought, ⟨by decide, by decide⟩, rows ▸ by decide⟩, trivial⟩
  · have missed : (trace turns (.empty .memory default)).map (fun r => foundTotal r.1) =
        [0, 0] := by cbv
    have found : (trace turns (.empty .sqlite default)).map (fun r => foundTotal r.1) =
        [0, 1] := by decide +kernel
    intro alike
    have differ : [0, 0] ≠ [0, 1] := by decide
    exact differ ((missed.symm.trans (foundTotals_of_alike alike)).trans found)

end Gazetteer
