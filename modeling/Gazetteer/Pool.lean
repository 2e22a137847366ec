/-!
# The books of the background work

Jobs that are submitted run in the background, a limited number at a time. The pool counts the jobs
that are not done yet; who waits for the count to reach zero sleeps in between and is woken by the
one who counts the last job off. Everything that takes a step of its own is a move of its own, so
the moves of the jobs and of those who wait come in any order.

* `Pool`: the permits, the count, the jobs by what became of them, and who waits.
* `Move`, `Pool.step`: what can happen next.
* `Pool.after?`, `Pool.run`: moves one after another.
* `Pool.finishAll`: the moves that bring every job to its end.
-/

set_option autoImplicit false

namespace Gazetteer

/-- How the work of a job ends. It is logged and told to nobody else. -/
inductive Ending where
  | success
  | failure
  | panic
  deriving DecidableEq, Repr

/-- Who waits for the count to reach zero. -/
inductive Waiter where
  /-- At the head of the loop, not to be called yet. -/
  | coming
  /-- To be called, and about to look at the count; `called` says that the call has come. -/
  | listening (called : Bool)
  /-- Has seen a count above zero and is about to sleep. -/
  | settling (called : Bool)
  | asleep
  /-- Done waiting. -/
  | gone
  deriving DecidableEq, Repr

namespace Waiter

/-- What the call that the count is zero does to a waiter: only who listens, or sleeps, hears it. -/
def call : Waiter → Waiter
  | .coming => .coming
  | .listening _ => .listening true
  | .settling _ => .settling true
  | .asleep => .coming
  | .gone => .gone

/-- A waiter asks to be called. -/
def listen : Waiter → Option Waiter
  | .coming => some (.listening false)
  | _ => none

/-- A waiter that listens looks at the count. -/
def look (pending : Nat) : Waiter → Option Waiter
  | .listening called => some (if pending = 0 then .gone else .settling called)
  | _ => none

/-- A waiter goes to sleep, or back to the head of the loop if it was called in the meantime. -/
def settle : Waiter → Option Waiter
  | .settling called => some (if called then .coming else .asleep)
  | _ => none

end Waiter

/-- The jobs by what became of them, each known by its number. -/
structure Pool where
  /-- The permits nobody holds. -/
  free : Nat
  /-- How many jobs were submitted; the next one has this number. -/
  submitted : Nat
  /-- The count of the jobs that are not done. -/
  pending : Nat
  /-- Submitted, and without a permit. -/
  waiting : List Nat
  /-- Holding a permit. -/
  running : List Nat
  /-- Ended, but not yet counted off. -/
  ended : List Nat
  /-- How many have counted the last job off and not yet called who waits. -/
  waking : Nat
  waiters : List Waiter
  deriving DecidableEq, Repr

/-- What can happen next. -/
inductive Move where
  | submit
  /-- A job takes a permit and runs. -/
  | start (job : Nat)
  /-- A job ends, however it ends, and gives its permit back. -/
  | finish (job : Nat) (ending : Ending)
  /-- A job is counted off. -/
  | count (job : Nat)
  /-- Everybody who waits is called. -/
  | wake
  /-- Somebody begins to wait. -/
  | arrive
  | listen (waiter : Nat)
  | look (waiter : Nat)
  | settle (waiter : Nat)
  deriving DecidableEq, Repr

namespace Pool

/-- A pool without jobs; at least one may run. -/
def idle (workers : Nat) : Pool := ⟨max workers 1, 0, 0, [], [], [], 0, []⟩

/-- The pool after the waiter at a place did something, if it could. -/
def waiter (p : Pool) (i : Nat) (does : Waiter → Option Waiter) : Option Pool := do
  let now ← p.waiters[i]?
  let next ← does now
  return { p with waiters := p.waiters.set i next }

/-- The pool after a move, if the move is possible. -/
def step (p : Pool) : Move → Option Pool
  | .submit =>
    -- The job is counted before it is handed over; until it starts nobody can tell the two apart.
    some { p with
      submitted := p.submitted + 1, pending := p.pending + 1,
      waiting := p.waiting ++ [p.submitted] }
  | .start job =>
    if job ∈ p.waiting ∧ 0 < p.free then
      some { p with
        free := p.free - 1, waiting := p.waiting.erase job, running := p.running ++ [job] }
    else none
  | .finish job _ =>
    if job ∈ p.running then
      some { p with
        free := p.free + 1, running := p.running.erase job, ended := p.ended ++ [job] }
    else none
  | .count job =>
    if job ∈ p.ended then
      some { p with
        pending := p.pending - 1, ended := p.ended.erase job,
        waking := if p.pending = 1 then p.waking + 1 else p.waking }
    else none
  | .wake =>
    if 0 < p.waking then
      some { p with waking := p.waking - 1, waiters := p.waiters.map Waiter.call }
    else none
  | .arrive => some { p with waiters := p.waiters ++ [.coming] }
  | .listen i => p.waiter i Waiter.listen
  | .look i => p.waiter i (Waiter.look p.pending)
  | .settle i => p.waiter i Waiter.settle

/-- The pool after moves, one after another, if each is possible in its turn. -/
def after? (p : Pool) (moves : List Move) : Option Pool := moves.foldlM step p

/-- The pool after moves, one after another; a move that is not possible is left out. -/
def run (p : Pool) (moves : List Move) : Pool :=
  moves.foldl (fun p m => (p.step m).getD p) p

/-- The moves that bring a job to its end. -/
def courseOf (job : Nat) : List Move :=
  [.start job, .finish job .success, .count job, .wake]

/-- Every job that waits is brought to its end, one after another. -/
def finishAll (p : Pool) : Pool := p.run (p.waiting.flatMap courseOf)

end Pool

end Gazetteer
