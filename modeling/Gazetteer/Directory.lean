import Gazetteer.Event.Basic
import Gazetteer.Json.Value
import Gazetteer.Provider.Basic
import Gazetteer.Store.Tables

/-!
# The directory

The state that every call reads and writes, and the calls as functions of it.

* `Job`: an address to resolve in the background.
* `Directory`: the tables with their engine, the events announced, what was asked of the providers,
  and the jobs that wait.
* `Action`: a call, which answers or fails, and leaves a directory either way.
* `read`, `change`, `create`: the calls that only look, only write, or write and answer.
-/

set_option autoImplicit false

namespace Gazetteer

/-- An address to resolve, for a merchant or for none. -/
structure Job where
  merchant : Option Int
  address : String
  source : String
  metadata : Option Json.Object

/-- The state of the directory. -/
structure Directory where
  engine : Engine
  now : Timestamp
  tables : Tables
  events : List Event
  lookups : List Lookup
  queue : List Job

/-- A directory that holds nothing. -/
def Directory.empty (engine : Engine) (now : Timestamp) : Directory :=
  ⟨engine, now, .empty, [], [], []⟩

/-- A call: it answers or fails, and leaves a directory either way. -/
def Action (α : Type) : Type := Directory → Except Failure α × Directory

namespace Action

variable {α β : Type}

/-- Answers without looking. -/
protected def pure (a : α) : Action α := fun d => (.ok a, d)

/-- Goes on with the answer; a failure ends the call where it is. -/
protected def bind (x : Action α) (f : α → Action β) : Action β := fun d =>
  match x d with
  | (.ok a, d) => f a d
  | (.error e, d) => (.error e, d)

instance : Monad Action where
  pure := Action.pure
  bind := Action.bind

/-- Fails. -/
def fail (e : Failure) : Action α := fun d => (.error e, d)

/-- A check or a reading of data that does not need the directory. -/
def ofExcept (x : Except Failure α) : Action α := fun d => (x, d)

/-- Looks at the directory. -/
def read (f : Directory → α) : Action α := fun d => (.ok (f d), d)

/-- Looks at the directory and may fail over what it sees. -/
def check (f : Directory → Except Failure α) : Action α := fun d => (f d, d)

/-- Writes to the tables. -/
def change (f : Engine → Tables → Tables) : Action Unit := fun d =>
  (.ok (), { d with tables := f d.engine d.tables })

/-- Writes to the tables and answers. -/
def create (f : Engine → Tables → α × Tables) : Action α := fun d =>
  let (a, t) := f d.engine d.tables
  (.ok a, { d with tables := t })

/-- The moment of the call. -/
def now : Action Timestamp := read Directory.now

/-- Announces an event. -/
def publish (e : Event) : Action Unit := fun d => (.ok (), { d with events := d.events ++ [e] })

/-- Puts a job into the queue. -/
def submit (j : Job) : Action Unit := fun d => (.ok (), { d with queue := d.queue ++ [j] })

/-- Makes a call and answers what came of it. What the call wrote stays. -/
def attempt (x : Action α) : Action (Except Failure α) := fun d =>
  let (r, d) := x d
  (.ok r, d)

/-! ## What each call does -/

section

variable (d : Directory)

@[simp] theorem pure_apply (a : α) : (pure a : Action α) d = (.ok a, d) := rfl

@[simp] theorem fail_apply (e : Failure) : (fail e : Action α) d = (.error e, d) := rfl

@[simp] theorem ofExcept_apply (x : Except Failure α) : ofExcept x d = (x, d) := rfl

@[simp] theorem read_apply (f : Directory → α) : read f d = (.ok (f d), d) := rfl

@[simp] theorem check_apply (f : Directory → Except Failure α) : check f d = (f d, d) := rfl

@[simp] theorem change_apply (f : Engine → Tables → Tables) :
    change f d = (.ok (), { d with tables := f d.engine d.tables }) := rfl

@[simp] theorem create_apply (f : Engine → Tables → α × Tables) :
    create f d =
      (.ok (f d.engine d.tables).1, { d with tables := (f d.engine d.tables).2 }) := rfl

@[simp] theorem now_apply : now d = (.ok d.now, d) := rfl

@[simp] theorem publish_apply (e : Event) :
    publish e d = (.ok (), { d with events := d.events ++ [e] }) := rfl

@[simp] theorem submit_apply (j : Job) :
    submit j d = (.ok (), { d with queue := d.queue ++ [j] }) := rfl

@[simp] theorem attempt_apply (x : Action α) : attempt x d = (.ok (x d).1, (x d).2) := rfl

end

/-! ## Calls in sequence -/

theorem bind_apply (x : Action α) (f : α → Action β) (d : Directory) :
    (x >>= f) d = match x d with
      | (.ok a, d) => f a d
      | (.error e, d) => (.error e, d) := rfl

theorem bind_of_ok {x : Action α} {f : α → Action β} {d d' : Directory} {a : α}
    (h : x d = (.ok a, d')) : (x >>= f) d = f a d' := by
  rw [bind_apply, h]

theorem bind_of_error {x : Action α} {f : α → Action β} {d d' : Directory} {e : Failure}
    (h : x d = (.error e, d')) : (x >>= f) d = (.error e, d') := by
  rw [bind_apply, h]

theorem map_apply (f : α → β) (x : Action α) (d : Directory) :
    (f <$> x) d = ((x d).1.map f, (x d).2) := by
  show Action.bind x _ d = _
  rw [Action.bind]
  cases x d with
  | mk r d' => cases r <;> rfl

theorem id_map (x : Action α) : id <$> x = x := by
  funext d
  rw [map_apply]
  cases x d with
  | mk r d' => cases r <;> rfl

theorem bind_assoc {γ : Type} (x : Action α) (f : α → Action β) (g : β → Action γ) :
    x >>= f >>= g = x >>= fun a => f a >>= g := by
  funext d
  simp only [bind_apply]
  cases x d with
  | mk r d' => cases r <;> rfl

instance : LawfulMonad Action := LawfulMonad.mk' Action id_map (fun _ _ => rfl) bind_assoc

end Action

end Gazetteer
