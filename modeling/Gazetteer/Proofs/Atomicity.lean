import Gazetteer.Proofs.Imports

/-!
# What fails leaves no mark

A call that fails has written nothing: the tables, the ids given out, the events and the waiting
jobs are those from before. Only the record of what providers were asked may have grown.

* `Action.Atomic`: a call of this kind.
* `Command.isAtomic`: all commands but two.
* `failed_turn_keeps`: a failed turn keeps everything that is stored and announced.
-/

set_option autoImplicit false

namespace Gazetteer

namespace Action

variable {α β : Type}

/-- A failure of the call leaves the directory as it was, the record of the lookups aside. -/
def Atomic (x : Action α) : Prop :=
  ∀ d e d', x d = (.error e, d') → ∃ ls, d' = { d with lookups := ls }

theorem Atomic.guarded (decision : Directory → Except Failure α)
    (effect : α → Directory → β × Directory) : Atomic (guarded decision effect) := by
  intro d e d' h
  obtain ⟨_, rfl⟩ := guarded_eq_error h
  exact ⟨_, rfl⟩

theorem Atomic.check (f : Directory → Except Failure α) : Atomic (check f) := by
  rw [check_eq]
  exact .guarded f _

theorem Atomic.map (f : α → β) {x : Action α} (hx : Atomic x) : Atomic (f <$> x) := by
  intro d e d' h
  rw [map_apply] at h
  cases hr : x d with
  | mk r d₁ =>
    rw [hr] at h
    cases r with
    | ok a => cases h
    | error e₁ =>
      cases h
      exact hx d _ _ hr

end Action

open Gazetteer.Action (Atomic)

/-! ## The services -/

namespace Geocoding

theorem resolve_atomic (chain : List Provider) (address : String) :
    Atomic (resolve chain address) := by
  intro d e d' h
  obtain ⟨r, ls, hr⟩ := resolve_asks chain address d
  rw [hr] at h
  cases h
  exact ⟨ls, rfl⟩

theorem save_atomic (chain : List Provider) (address source : String)
    (metadata : Option Json.Object) : Atomic (save chain address source metadata) := by
  intro d e d' h
  have hs := save_saved chain address source metadata d
  rw [h] at hs
  cases hs
  exact ⟨_, rfl⟩

/-- A copy is refused before it is written, and a point that was added is given away at once. -/
theorem link_atomic (chain : List Provider) (job : Job) : Atomic (link chain job) := by
  intro d e d' h
  have hl := link_linked chain job d
  rw [h] at hl
  cases hl
  exact ⟨_, rfl⟩

theorem nearby_atomic (longitude latitude radius : Float) (limit : Nat) :
    Atomic (nearby longitude latitude radius limit) := by
  intro d e d' h
  obtain ⟨r, hr⟩ := nearby_looks longitude latitude radius limit d
  rw [hr] at h
  cases h
  exact ⟨d.lookups, rfl⟩

end Geocoding

theorem Import.importBytes_atomic (i : Importer) (who : Principal) (auto : Bool)
    (bytes : List UInt8) : Atomic (importBytes i who auto bytes) := by
  intro d e d' h
  obtain ⟨f, hf⟩ | ⟨columns, records, os, d₁, _, hi⟩ := importBytes_cases i who auto bytes d
  · rw [hf] at h
    cases h
    exact ⟨d.lookups, rfl⟩
  · rw [hi] at h
    cases h

/-- The jobs of an import end nothing, so only the import itself can fail. -/
theorem ImportCommand.perform_atomic (who : Principal) (c : ImportCommand) :
    Atomic (c.perform who) := by
  intro d e d' h
  rw [ImportCommand.perform] at h
  cases hi : Import.importBytes c.importer who c.autoGeocode c.bytes d with
  | mk r d₁ =>
    cases r with
    | error f =>
      rw [Action.bind_of_error hi] at h
      cases h
      exact Import.importBytes_atomic _ _ _ _ d _ _ hi
    | ok report =>
      obtain ⟨d₂, hd⟩ := Geocoding.drain_ok c.schedule c.chain d₁
      rw [Action.bind_of_ok hi, Action.bind_of_ok hd] at h
      cases h

/-! ## Commands -/

/-- The commands whose failures leave no mark. Geocoding on demand writes its failure down, and a
batch that a crash ends keeps what it had saved. -/
def Command.isAtomic : Command → Bool
  | .merchants (.geocode _ _) => false
  | .geocoding (.batch _ _ _) => false
  | _ => true

theorem MerchantCommand.perform_atomic (who : Principal) (c : MerchantCommand)
    (hc : (Command.merchants c).isAtomic = true) : Atomic (c.perform who) := by
  cases c with
  | create draft =>
    rw [perform, Merchants.create_eq]
    exact .map _ (.guarded _ _)
  | find id =>
    rw [perform, Merchants.find_eq]
    exact .map _ (.guarded _ _)
  | list search paging => exact .map _ (.check _)
  | update id u =>
    rw [perform, Merchants.update_eq]
    exact .map _ (.guarded _ _)
  | delete id =>
    rw [perform, Merchants.delete_eq]
    exact .map _ (.guarded _ _)
  | geocode chain id => cases hc

theorem TagCommand.perform_atomic (who : Principal) (c : TagCommand) : Atomic (c.perform who) := by
  cases c with
  | create draft =>
    rw [perform, Tags.create_eq]
    exact .map _ (.guarded _ _)
  | find id => exact .map _ (.check _)
  | list search category paging => exact .map _ (.check _)
  | update id draft =>
    rw [perform, Tags.update_eq]
    exact .map _ (.guarded _ _)
  | delete id =>
    rw [perform, Tags.delete_eq]
    exact .map _ (.guarded _ _)

theorem PointCommand.perform_atomic (who : Principal) (c : PointCommand) :
    Atomic (c.perform who) := by
  cases c with
  | create draft =>
    rw [perform, Points.create_eq]
    exact .map _ (.guarded _ _)
  | find id => exact .map _ (.check _)
  | list merchant search paging => exact .map _ (.check _)
  | update id draft =>
    rw [perform, Points.update_eq]
    exact .map _ (.guarded _ _)
  | delete id =>
    rw [perform, Points.delete_eq]
    exact .map _ (.guarded _ _)

theorem GeocodingCommand.perform_atomic (c : GeocodingCommand)
    (hc : (Command.geocoding c).isAtomic = true) : Atomic c.perform := by
  cases c with
  | resolve chain address => exact .map _ (Geocoding.resolve_atomic chain address)
  | save chain address source metadata =>
    exact .map _ (Geocoding.save_atomic chain address source metadata)
  | link chain job => exact .map _ (Geocoding.link_atomic chain job)
  | batch chain source addresses => cases hc
  | nearby longitude latitude radius limit =>
    exact .map _ (Geocoding.nearby_atomic longitude latitude radius limit)

theorem Command.perform_atomic (who : Principal) (c : Command) (hc : c.isAtomic = true) :
    Atomic (c.perform who) := by
  cases c with
  | merchants c => exact c.perform_atomic who hc
  | tags c => exact c.perform_atomic who
  | points c => exact c.perform_atomic who
  | geocoding c => exact c.perform_atomic hc
  | importFile c => exact c.perform_atomic who

/-- A turn that fails, whoever takes it and with whatever arguments, keeps the tables with the ids
they gave out, the events and the queue. -/
theorem failed_turn_keeps (t : Turn) (d d' : Directory) (e : Failure)
    (hc : t.command.isAtomic = true) (h : t.take d = (.error e, d')) :
    d'.tables = d.tables ∧ d'.events = d.events ∧ d'.queue = d.queue := by
  obtain ⟨ls, rfl⟩ := t.command.perform_atomic t.who hc _ e d' h
  exact ⟨rfl, rfl, rfl⟩

/-- A tag of somebody else is not removed. -/
theorem denied_delete_keeps :
    let d := run [⟨⟨1, "ada"⟩, default, .tags (.create ⟨"new", "", "", "", ""⟩)⟩]
      (.empty .sqlite default)
    let t : Turn := ⟨⟨2, "bob"⟩, default, .tags (.delete 1)⟩
    (t.take d).1 = .error (.accessDenied "merchant tag") ∧
      (t.take d).2.tables = d.tables ∧ (t.take d).2.events = d.events ∧
        (t.take d).2.queue = d.queue := by
  intro d t
  have h : (t.take d).1 = .error (.accessDenied "merchant tag") := rfl
  exact ⟨h, failed_turn_keeps t d _ _ rfl (Prod.ext h rfl)⟩

end Gazetteer
