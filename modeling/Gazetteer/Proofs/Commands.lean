import Gazetteer.Directory.Points
import Gazetteer.Directory.Tags
import Gazetteer.Import.Run

/-!
# Commands and runs

Everything that can be asked of the directory, one service after another, and what a run of such
commands makes of it.

* `Command`: a call with its arguments; `Reply`: what it answers.
* `Schedule`: the order in which the jobs of an import come to their turn.
* `Turn`: a command, who gives it and when.
* `run`, `trace`: turns one after another, with the directory at the end or with every reply.
* `Reachable`: the directories that a run from an empty one ends in.
-/

set_option autoImplicit false

namespace Gazetteer

/-! ## What is asked and answered -/

/-- The calls on merchants. Geocoding on demand may have no chain of providers. -/
inductive MerchantCommand where
  | create (draft : MerchantDraft)
  | find (id : Int)
  | list (search : String) (paging : Paging)
  | update (id : Int) (u : MerchantUpdate)
  | delete (id : Int)
  | geocode (chain : Option (List Provider)) (id : Int)

/-- The calls on tags. -/
inductive TagCommand where
  | create (draft : TagDraft)
  | find (id : Int)
  | list (search : String) (category : Option String) (paging : Paging)
  | update (id : Int) (draft : TagDraft)
  | delete (id : Int)

/-- The calls on points. -/
inductive PointCommand where
  | create (draft : GeoPointDraft)
  | find (id : Int)
  | list (merchant : Int) (search : String) (paging : Paging)
  | update (id : Int) (draft : GeoPointDraft)
  | delete (id : Int)

/-- The calls on addresses and places, which know no owner. -/
inductive GeocodingCommand where
  | resolve (chain : List Provider) (address : String)
  | save (chain : List Provider) (address source : String) (metadata : Option Json.Object)
  | link (chain : List Provider) (job : Job)
  | batch (chain : List Provider) (source : String) (addresses : List String)
  | nearby (longitude latitude radius : Float) (limit : Nat)

/-- An order for the jobs that wait: each of them has its turn once. -/
structure Schedule where
  order : List Job → List Job
  perm : ∀ jobs, (order jobs).Perm jobs

/-- The jobs in the order in which they were submitted. -/
def Schedule.asSubmitted : Schedule := ⟨id, fun _ => .refl _⟩

/-- An import of a file, with the chain and the order for the jobs that it submits. -/
structure ImportCommand where
  importer : Import.Importer
  autoGeocode : Bool
  bytes : List UInt8
  chain : List Provider
  schedule : Schedule

/-- A call with its arguments. -/
inductive Command where
  | merchants (c : MerchantCommand)
  | tags (c : TagCommand)
  | points (c : PointCommand)
  | geocoding (c : GeocodingCommand)
  | importFile (c : ImportCommand)

/-- What a call answers. -/
inductive Reply where
  | done
  | merchant (m : Merchant)
  | merchants (page : Page Merchant)
  | tag (t : Tag)
  | tags (page : Page Tag)
  | point (p : GeoPoint)
  | points (page : Page GeoPoint)
  | place (r : GeocodeResult)
  | found (ps : List GeoPoint)
  | report (r : Import.Report)

/-! ## What the calls do -/

/-- Runs the jobs that wait in the order of a schedule, until none is left. -/
def Geocoding.drain (s : Schedule) (chain : List Provider) : Action Unit := fun d =>
  runJobs chain (s.order d.queue) { d with queue := [] }

/-- In the order in which they were submitted, jobs run as they wait. -/
theorem Geocoding.drain_asSubmitted (chain : List Provider) :
    drain .asSubmitted chain = runWaiting chain := rfl

def MerchantCommand.perform (who : Principal) : MerchantCommand → Action Reply
  | .create draft => .merchant <$> Merchants.create who draft
  | .find id => .merchant <$> Merchants.find who id
  | .list search paging => .merchants <$> Merchants.list who search paging
  | .update id u => .merchant <$> Merchants.update who id u
  | .delete id => (fun _ => .done) <$> Merchants.delete who id
  | .geocode chain id => .merchant <$> Merchants.geocode chain who id

def TagCommand.perform (who : Principal) : TagCommand → Action Reply
  | .create draft => .tag <$> Tags.create who draft
  | .find id => .tag <$> Tags.find who id
  | .list search category paging => .tags <$> Tags.list who search category paging
  | .update id draft => .tag <$> Tags.update who id draft
  | .delete id => (fun _ => .done) <$> Tags.delete who id

def PointCommand.perform (who : Principal) : PointCommand → Action Reply
  | .create draft => .point <$> Points.create who draft
  | .find id => .point <$> Points.find who id
  | .list merchant search paging => .points <$> Points.list who merchant search paging
  | .update id draft => .point <$> Points.update who id draft
  | .delete id => (fun _ => .done) <$> Points.delete who id

def GeocodingCommand.perform : GeocodingCommand → Action Reply
  | .resolve chain address => .place <$> Geocoding.resolve chain address
  | .save chain address source metadata => .point <$> Geocoding.save chain address source metadata
  | .link chain job => .point <$> Geocoding.link chain job
  | .batch chain source addresses => .found <$> Geocoding.batch chain source addresses
  | .nearby longitude latitude radius limit =>
    .found <$> Geocoding.nearby longitude latitude radius limit

/-- The import, and then the jobs that it submitted. The report is the one from before the jobs. -/
def ImportCommand.perform (who : Principal) (c : ImportCommand) : Action Reply := do
  let report ← Import.importBytes c.importer who c.autoGeocode c.bytes
  Geocoding.drain c.schedule c.chain
  return .report report

def Command.perform (who : Principal) : Command → Action Reply
  | .merchants c => c.perform who
  | .tags c => c.perform who
  | .points c => c.perform who
  | .geocoding c => c.perform
  | .importFile c => c.perform who

/-! ## Runs -/

/-- A command, who gives it, and at which moment. -/
structure Turn where
  who : Principal
  moment : Timestamp
  command : Command

/-- The reply to the command of a turn, and the directory afterwards. -/
def Turn.take (t : Turn) (d : Directory) : Except Failure Reply × Directory :=
  t.command.perform t.who { d with now := t.moment }

/-- The directory after some turns. -/
def run (turns : List Turn) (d : Directory) : Directory :=
  turns.foldl (fun d t => (t.take d).2) d

/-- Each reply with the directory right after it. -/
def trace : List Turn → Directory → List (Except Failure Reply × Directory)
  | [], _ => []
  | t :: rest, d => t.take d :: trace rest (t.take d).2

theorem run_cons (t : Turn) (rest : List Turn) (d : Directory) :
    run (t :: rest) d = run rest (t.take d).2 := rfl

theorem run_append (early late : List Turn) (d : Directory) :
    run (early ++ late) d = run late (run early d) :=
  List.foldl_append

/-- What every turn of a run keeps, the run keeps. -/
theorem run_keeps {P : Directory → Prop} {turns : List Turn} {d : Directory}
    (step : ∀ t ∈ turns, ∀ d, P d → P (t.take d).2) (h : P d) : P (run turns d) := by
  induction turns generalizing d with
  | nil => exact h
  | cons t rest ih =>
    rw [run_cons]
    exact ih (fun t ht => step t (List.mem_cons_of_mem _ ht)) (step t List.mem_cons_self d h)

/-- A run from an empty directory ends in this one. -/
def Reachable (d : Directory) : Prop :=
  ∃ engine moment turns, d = run turns (.empty engine moment)

/-- What every turn keeps holds in all directories that can be reached from an empty one. -/
theorem Reachable.induction {P : Directory → Prop} {d : Directory} (h : Reachable d)
    (start : ∀ engine moment, P (.empty engine moment))
    (step : ∀ (t : Turn) (d : Directory), P d → P (t.take d).2) : P d := by
  obtain ⟨engine, moment, turns, rfl⟩ := h
  exact run_keeps (fun t _ => step t) (start engine moment)

end Gazetteer
