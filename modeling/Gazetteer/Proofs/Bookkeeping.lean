import Gazetteer.Pool
import Mathlib.Data.List.Count
import Mathlib.Data.List.Induction

/-!
# The books of the pool are right

Whatever the order in which jobs are submitted, start, end and are counted off, and in which
waiters listen, look and fall asleep, the count says how many jobs are outstanding, and nobody
sleeps on when it is zero.

* `Pool.Flows`: where the jobs are, in terms of the moves made; what goes in comes out.
* `Pool.Called`: who dozes is going to be called.
* `Pool.Flows.step`, `Pool.Called.step`: one move keeps both; `Pool.Flows.of_after`,
  `Pool.Called.of_after`: so does a whole run.
* `Pool.Flows.nothing_left`: jobs that cannot go on are all counted off.
* `Pool.sawZero_of_after`: who is done waiting saw a count of zero.
* `Pool.Books`, `Pool.books_right`: what the run as a whole says about the books.
-/

set_option autoImplicit false

namespace Gazetteer

/-! ## Moves by what they do to jobs -/

namespace Move

/-- The move starts this job. -/
def starts (job : Nat) : Move → Bool
  | .start k => k == job
  | _ => false

/-- The move ends this job, however it ends. -/
def finishes (job : Nat) : Move → Bool
  | .finish k _ => k == job
  | _ => false

/-- The move counts this job off. -/
def counts (job : Nat) : Move → Bool
  | .count k => k == job
  | _ => false

/-- The move starts a job. -/
def isStart : Move → Bool
  | .start _ => true
  | _ => false

/-- The move ends a job. -/
def isFinish : Move → Bool
  | .finish _ _ => true
  | _ => false

/-- The move counts a job off. -/
def isCount : Move → Bool
  | .count _ => true
  | _ => false

/-- The move brings a job nearer to its end. -/
def OfJob (m : Move) : Prop := m.isStart ∨ m.isFinish ∨ m.isCount

instance (m : Move) : Decidable m.OfJob := inferInstanceAs (Decidable (_ ∨ _ ∨ _))

end Move

/-! ## Waiters that count on being called -/

namespace Waiter

/-- A waiter that does not look at the count again unless it is called. -/
def Dozing (w : Waiter) : Prop := w = .settling false ∨ w = .asleep

theorem call_wakeful (w : Waiter) : ¬ w.call.Dozing := by
  cases w <;> simp [call, Dozing]

theorem listen_eq_some {w v : Waiter} (h : w.listen = some v) : v = .listening false := by
  cases w <;> simp_all [listen]

theorem look_eq_some {n : Nat} {w v : Waiter} (h : w.look n = some v) :
    (n = 0 ∧ v = .gone) ∨ (0 < n ∧ ∃ called, v = .settling called) := by
  cases w with
  | listening called =>
    simp only [look, Option.some.injEq] at h
    split at h
    · exact .inl ⟨‹n = 0›, h.symm⟩
    · exact .inr ⟨Nat.pos_of_ne_zero ‹_›, called, h.symm⟩
  | _ => simp [look] at h

theorem settle_eq_some {w v : Waiter} (h : w.settle = some v) :
    (w = .settling true ∧ v = .coming) ∨ (w = .settling false ∧ v = .asleep) := by
  cases w with
  | settling called => cases called <;> simp_all [settle]
  | _ => simp [settle] at h

end Waiter

namespace Pool

variable {p q : Pool} {workers job i : Nat} {ms : List Move} {m : Move}

/-! ## What one move does -/

theorem start_eq_some (h : p.step (.start job) = some q) :
    job ∈ p.waiting ∧ 0 < p.free ∧
      q = { p with
        free := p.free - 1, waiting := p.waiting.erase job, running := p.running ++ [job] } := by
  simp only [step] at h
  split at h
  case isTrue can => exact ⟨can.1, can.2, (Option.some.inj h).symm⟩
  case isFalse => cases h

theorem finish_eq_some {ending : Ending} (h : p.step (.finish job ending) = some q) :
    job ∈ p.running ∧
      q = { p with
        free := p.free + 1, running := p.running.erase job, ended := p.ended ++ [job] } := by
  simp only [step] at h
  split at h
  case isTrue can => exact ⟨can, (Option.some.inj h).symm⟩
  case isFalse => cases h

theorem count_eq_some (h : p.step (.count job) = some q) :
    job ∈ p.ended ∧
      q = { p with
        pending := p.pending - 1, ended := p.ended.erase job,
        waking := if p.pending = 1 then p.waking + 1 else p.waking } := by
  simp only [step] at h
  split at h
  case isTrue can => exact ⟨can, (Option.some.inj h).symm⟩
  case isFalse => cases h

theorem wake_eq_some (h : p.step .wake = some q) :
    0 < p.waking ∧
      q = { p with waking := p.waking - 1, waiters := p.waiters.map Waiter.call } := by
  simp only [step] at h
  split at h
  case isTrue can => exact ⟨can, (Option.some.inj h).symm⟩
  case isFalse => cases h

theorem waiter_eq_some {does : Waiter → Option Waiter} (h : p.waiter i does = some q) :
    ∃ now next, p.waiters[i]? = some now ∧ does now = some next ∧
      q = { p with waiters := p.waiters.set i next } := by
  simp only [waiter, Option.bind_eq_bind, Option.bind_eq_some_iff, Option.pure_def,
    Option.some.injEq] at h
  obtain ⟨now, at_i, next, did, rfl⟩ := h
  exact ⟨now, next, at_i, did, rfl⟩

/-- The moves of those who wait leave the jobs and the count alone. -/
theorem step_waiting (h : p.step m = some q) (notJob : ¬ m.OfJob) (notNew : m ≠ .submit) :
    ∃ waking waiters, q = { p with waking := waking, waiters := waiters } := by
  cases m with
  | submit => exact absurd rfl notNew
  | start | finish | count => simp [Move.OfJob, Move.isStart, Move.isFinish, Move.isCount] at notJob
  | wake =>
    obtain ⟨-, rfl⟩ := wake_eq_some h
    exact ⟨_, _, rfl⟩
  | arrive => exact ⟨p.waking, _, (Option.some.inj h).symm⟩
  | listen i | look i | settle i =>
    obtain ⟨_, _, -, -, rfl⟩ := waiter_eq_some h
    exact ⟨p.waking, _, rfl⟩

/-! ## Runs -/

/-- A run up to its last move, and that move. -/
theorem after?_snoc (p : Pool) (ms : List Move) (m : Move) :
    p.after? (ms ++ [m]) = (p.after? ms).bind (·.step m) := by
  simp [after?, List.foldlM_append]

theorem after?_append (p : Pool) (ms rest : List Move) :
    p.after? (ms ++ rest) = (p.after? ms).bind (·.after? rest) := by
  simp [after?, List.foldlM_append]

/-- What holds of a pool without jobs and is kept by every move holds after every run. -/
theorem after_induction {workers : Nat} {motive : List Move → Pool → Prop}
    (start : motive [] (idle workers))
    (next : ∀ ms m p q, (idle workers).after? ms = some p → motive ms p → p.step m = some q →
      motive (ms ++ [m]) q)
    {ms : List Move} {p : Pool} (h : (idle workers).after? ms = some p) : motive ms p := by
  induction ms using List.reverseRecOn generalizing p with
  | nil => exact Option.some.inj h ▸ start
  | append_singleton ms m ih =>
    rw [after?_snoc, Option.bind_eq_some_iff] at h
    obtain ⟨before, reached, stepped⟩ := h
    exact next ms m before p reached (ih reached) stepped

/-! ## Where the jobs are -/

/-- What went into each place and what came out of it again, job by job and altogether. -/
structure Flows (workers : Nat) (ms : List Move) (p : Pool) : Prop where
  submitted : p.submitted = ms.count .submit
  outstanding : p.pending = p.waiting.length + p.running.length + p.ended.length
  permits : p.free + p.running.length = max workers 1
  allWaited : p.waiting.length + ms.countP Move.isStart = p.submitted
  allRan : p.running.length + ms.countP Move.isFinish = ms.countP Move.isStart
  allEnded : p.ended.length + ms.countP Move.isCount = ms.countP Move.isFinish
  waited : ∀ job, p.waiting.count job + ms.countP (Move.starts job) =
    if job < p.submitted then 1 else 0
  ran : ∀ job, p.running.count job + ms.countP (Move.finishes job) = ms.countP (Move.starts job)
  ended : ∀ job, p.ended.count job + ms.countP (Move.counts job) = ms.countP (Move.finishes job)

/-- Taking a job out of a list it is in. -/
theorem count_erase_add {l : List Nat} (h : job ∈ l) (other : Nat) :
    (l.erase job).count other + (if job = other then 1 else 0) = l.count other := by
  rw [(List.perm_cons_erase h).count_eq other, List.count_cons]
  simp only [beq_iff_eq]

theorem length_erase_add {l : List Nat} (h : job ∈ l) : (l.erase job).length + 1 = l.length := by
  rw [(List.perm_cons_erase h).length_eq, List.length_cons]

namespace Flows

theorem at_start (workers : Nat) : Flows workers [] (idle workers) where
  submitted := rfl
  outstanding := rfl
  permits := rfl
  allWaited := rfl
  allRan := rfl
  allEnded := rfl
  waited _ := rfl
  ran _ := rfl
  ended _ := rfl

section Steps

variable (h : Flows workers ms p)

include h

theorem submit : Flows workers (ms ++ [.submit])
    { p with
      submitted := p.submitted + 1, pending := p.pending + 1,
      waiting := p.waiting ++ [p.submitted] } where
  submitted := by simp [h.submitted]
  outstanding := by simp [h.outstanding]; omega
  permits := h.permits
  allWaited := by
    have := h.allWaited
    simp [Move.isStart]; omega
  allRan := by simpa [Move.isStart, Move.isFinish] using h.allRan
  allEnded := by simpa [Move.isCount, Move.isFinish] using h.allEnded
  waited job := by
    -- The new job is the one that no earlier move can be about.
    have := h.waited job
    simp only [List.count_append, List.count_singleton, beq_iff_eq, List.countP_append,
      List.countP_singleton, Move.starts, Bool.false_eq_true, if_false]
    split at this <;> split <;> split <;> omega
  ran job := by simpa [Move.starts, Move.finishes] using h.ran job
  ended job := by simpa [Move.counts, Move.finishes] using h.ended job

theorem start (here : job ∈ p.waiting) (can : 0 < p.free) : Flows workers (ms ++ [.start job])
    { p with
      free := p.free - 1, waiting := p.waiting.erase job, running := p.running ++ [job] } where
  submitted := by simpa using h.submitted
  outstanding := by
    have := length_erase_add here
    simp [h.outstanding]; omega
  permits := by
    have := h.permits
    simp; omega
  allWaited := by
    have := h.allWaited
    have := length_erase_add here
    simp [Move.isStart]; omega
  allRan := by
    have := h.allRan
    simp [Move.isStart, Move.isFinish]; omega
  allEnded := by simpa [Move.isCount, Move.isFinish] using h.allEnded
  waited other := by
    have := h.waited other
    have := count_erase_add here other
    simp only [List.countP_append, List.countP_singleton, Move.starts, beq_iff_eq]
    omega
  ran other := by
    have := h.ran other
    simp only [List.count_append, List.count_singleton, List.countP_append, List.countP_singleton,
      Move.starts, Move.finishes, beq_iff_eq, Bool.false_eq_true, if_false]
    omega
  ended other := by simpa [Move.counts, Move.finishes] using h.ended other

theorem finish (here : job ∈ p.running) (ending : Ending) :
    Flows workers (ms ++ [.finish job ending])
      { p with
        free := p.free + 1, running := p.running.erase job, ended := p.ended ++ [job] } where
  submitted := by simpa using h.submitted
  outstanding := by
    have := length_erase_add here
    simp [h.outstanding]; omega
  permits := by
    have := h.permits
    have := length_erase_add here
    simp; omega
  allWaited := by simpa [Move.isStart] using h.allWaited
  allRan := by
    have := h.allRan
    have := length_erase_add here
    simp [Move.isStart, Move.isFinish]; omega
  allEnded := by
    have := h.allEnded
    simp [Move.isCount, Move.isFinish]; omega
  waited other := by simpa [Move.starts] using h.waited other
  ran other := by
    have := h.ran other
    have := count_erase_add here other
    simp only [List.countP_append, List.countP_singleton, Move.starts, Move.finishes, beq_iff_eq,
      Bool.false_eq_true, if_false]
    omega
  ended other := by
    have := h.ended other
    simp only [List.count_append, List.count_singleton, List.countP_append, List.countP_singleton,
      Move.counts, Move.finishes, beq_iff_eq, Bool.false_eq_true, if_false]
    omega

theorem count (here : job ∈ p.ended) (waking : Nat) : Flows workers (ms ++ [.count job])
    { p with
      pending := p.pending - 1, ended := p.ended.erase job, waking := waking } where
  submitted := by simpa using h.submitted
  outstanding := by
    have := length_erase_add here
    simp [h.outstanding]; omega
  permits := h.permits
  allWaited := by simpa [Move.isStart] using h.allWaited
  allRan := by simpa [Move.isStart, Move.isFinish] using h.allRan
  allEnded := by
    have := h.allEnded
    have := length_erase_add here
    simp [Move.isCount, Move.isFinish]; omega
  waited other := by simpa [Move.starts] using h.waited other
  ran other := by simpa [Move.starts, Move.finishes] using h.ran other
  ended other := by
    have := h.ended other
    have := count_erase_add here other
    simp only [List.countP_append, List.countP_singleton, Move.counts, Move.finishes, beq_iff_eq,
      Bool.false_eq_true, if_false]
    omega

/-- The moves of those who wait change nothing here. -/
theorem waiting (notJob : ¬ m.OfJob) (notNew : m ≠ .submit) (waking : Nat)
    (waiters : List Waiter) :
    Flows workers (ms ++ [m]) { p with waking := waking, waiters := waiters } := by
  have still : ∀ f : Move → Bool, f m = false → (ms ++ [m]).countP f = ms.countP f := by
    intro f no
    simp [List.countP_append, no]
  obtain ⟨noStart, noFinish, noCount⟩ : m.isStart = false ∧ m.isFinish = false ∧
      m.isCount = false := by
    simpa [Move.OfJob, not_or] using notJob
  have starts job : m.starts job = false := by cases m <;> simp_all [Move.starts, Move.isStart]
  have finishes job : m.finishes job = false := by
    cases m <;> simp_all [Move.finishes, Move.isFinish]
  have counts job : m.counts job = false := by cases m <;> simp_all [Move.counts, Move.isCount]
  exact {
    submitted := by simpa [List.count_singleton, notNew] using h.submitted
    outstanding := h.outstanding
    permits := h.permits
    allWaited := by simpa only [still _ noStart] using h.allWaited
    allRan := by simpa only [still _ noStart, still _ noFinish] using h.allRan
    allEnded := by simpa only [still _ noFinish, still _ noCount] using h.allEnded
    waited := fun job => by simpa only [still _ (starts job)] using h.waited job
    ran := fun job => by simpa only [still _ (starts job), still _ (finishes job)] using h.ran job
    ended := fun job => by
      simpa only [still _ (finishes job), still _ (counts job)] using h.ended job }

/-- One move, whichever it is, keeps track of the jobs. -/
theorem step (stepped : p.step m = some q) : Flows workers (ms ++ [m]) q := by
  cases m with
  | submit => exact Option.some.inj stepped ▸ h.submit
  | start job =>
    obtain ⟨here, can, rfl⟩ := start_eq_some stepped
    exact h.start here can
  | finish job ending =>
    obtain ⟨here, rfl⟩ := finish_eq_some stepped
    exact h.finish here ending
  | count job =>
    obtain ⟨here, rfl⟩ := count_eq_some stepped
    exact h.count here _
  | wake | arrive | listen | look | settle =>
    obtain ⟨waking, waiters, rfl⟩ := step_waiting stepped
      (by simp [Move.OfJob, Move.isStart, Move.isFinish, Move.isCount]) (by simp)
    exact h.waiting (by simp [Move.OfJob, Move.isStart, Move.isFinish, Move.isCount]) (by simp) _ _

/-- A job that was submitted is in one place: it waits, runs, has ended, or was counted off. -/
theorem somewhere (known : job < p.submitted) :
    p.waiting.count job + p.running.count job + p.ended.count job +
      ms.countP (Move.counts job) = 1 := by
  have waited := h.waited job
  have ran := h.ran job
  have ended := h.ended job
  rw [if_pos known] at waited
  omega

end Steps

/-- Every run keeps track of the jobs. -/
theorem of_after (h : (idle workers).after? ms = some p) : Flows workers ms p :=
  after_induction (at_start workers) (fun _ _ _ _ _ so stepped => so.step stepped) h

end Flows

/-! ## Who is called -/

/-- While somebody dozes, there is a job to be counted off, or the call is on its way. -/
def Called (p : Pool) : Prop := ∀ w ∈ p.waiters, w.Dozing → 0 < p.pending ∨ 0 < p.waking

namespace Called

/-- A waiter that dozes after its own move dozed before it, or has just seen a job outstanding. -/
theorem waiter {does : Waiter → Option Waiter} (h : p.Called)
    (dozes : ∀ now next, does now = some next → next.Dozing → now.Dozing ∨ 0 < p.pending)
    (stepped : p.waiter i does = some q) : q.Called := by
  obtain ⟨now, next, at_i, did, rfl⟩ := waiter_eq_some stepped
  intro w here dozing
  rcases List.mem_or_eq_of_mem_set here with old | rfl
  · exact h w old dozing
  · rcases dozes now w did dozing with before | left
    · exact h now (List.mem_of_getElem? at_i) before
    · exact .inl left

/-- One move, whichever it is, leaves nobody to sleep on. -/
theorem step (h : p.Called) (flows : Flows workers ms p) (stepped : p.step m = some q) :
    q.Called := by
  cases m with
  | submit =>
    obtain rfl := Option.some.inj stepped
    exact fun _ _ _ => .inl (Nat.succ_pos _)
  | start job =>
    obtain ⟨-, -, rfl⟩ := start_eq_some stepped
    exact h
  | finish job ending =>
    obtain ⟨-, rfl⟩ := finish_eq_some stepped
    exact h
  | count job =>
    -- Who counts the last job off owes the call from then on.
    obtain ⟨here, rfl⟩ := count_eq_some stepped
    have some_left := List.length_pos_of_mem here
    have outstanding := flows.outstanding
    intro w waits dozing
    by_cases last : p.pending = 1
    · exact .inr (by simp [last])
    · exact .inl (by simp only; omega)
  | wake =>
    obtain ⟨-, rfl⟩ := wake_eq_some stepped
    intro w here dozing
    obtain ⟨before, -, rfl⟩ := List.mem_map.mp here
    exact absurd dozing before.call_wakeful
  | arrive =>
    obtain rfl := Option.some.inj stepped
    intro w here dozing
    rcases List.mem_append.mp here with old | new
    · exact h w old dozing
    · obtain rfl := List.mem_singleton.mp new
      simp [Waiter.Dozing] at dozing
  | listen i =>
    refine h.waiter (fun now next did dozing => ?_) stepped
    obtain rfl := Waiter.listen_eq_some did
    simp [Waiter.Dozing] at dozing
  | look i =>
    refine h.waiter (fun now next did dozing => ?_) stepped
    rcases Waiter.look_eq_some did with ⟨-, rfl⟩ | ⟨left, -⟩
    · simp [Waiter.Dozing] at dozing
    · exact .inr left
  | settle i =>
    refine h.waiter (fun now next did dozing => ?_) stepped
    rcases Waiter.settle_eq_some did with ⟨-, rfl⟩ | ⟨rfl, -⟩
    · simp [Waiter.Dozing] at dozing
    · exact .inl (.inl rfl)

/-- No run leaves anybody to sleep on. -/
theorem of_after (h : (idle workers).after? ms = some p) : p.Called :=
  after_induction (motive := fun _ p => p.Called) (fun _ here => nomatch here)
    (fun _ _ _ _ reached so stepped => so.step (.of_after reached) stepped) h

end Called

/-! ## Who leaves -/

/-- Who is done waiting looked at the count once, and it was zero. -/
def SawZero (workers : Nat) (ms : List Move) (i : Nat) : Prop :=
  ∃ before rest seen, ms = before ++ .look i :: rest ∧
    (idle workers).after? before = some seen ∧ seen.pending = 0

theorem SawZero.snoc (h : SawZero workers ms i) (m : Move) : SawZero workers (ms ++ [m]) i := by
  obtain ⟨before, rest, seen, rfl, reached, zero⟩ := h
  exact ⟨before, rest ++ [m], seen, by simp, reached, zero⟩

/-- A waiter's own move makes nobody else done waiting. -/
theorem gone_of_waiter {k : Nat} {does : Waiter → Option Waiter} (stepped : p.waiter k does = some q)
    (gone : q.waiters[i]? = some .gone) :
    p.waiters[i]? = some .gone ∨ (k = i ∧ ∃ now, does now = some .gone) := by
  obtain ⟨now, next, at_k, did, rfl⟩ := waiter_eq_some stepped
  by_cases same : k = i
  · subst same
    have inside : k < p.waiters.length := (List.getElem?_eq_some_iff.mp at_k).1
    rw [List.getElem?_set_self inside] at gone
    exact .inr ⟨rfl, now, Option.some.inj gone ▸ did⟩
  · rw [List.getElem?_set_ne same] at gone
    exact .inl gone

/-- A waiter is done waiting after a look at a count of zero, and after no other move. -/
theorem gone_of_step (stepped : p.step m = some q) (gone : q.waiters[i]? = some .gone) :
    p.waiters[i]? = some .gone ∨ (m = .look i ∧ p.pending = 0) := by
  cases m with
  | submit =>
    obtain rfl := Option.some.inj stepped
    exact .inl gone
  | start job =>
    obtain ⟨-, -, rfl⟩ := start_eq_some stepped
    exact .inl gone
  | finish job ending =>
    obtain ⟨-, rfl⟩ := finish_eq_some stepped
    exact .inl gone
  | count job =>
    obtain ⟨-, rfl⟩ := count_eq_some stepped
    exact .inl gone
  | wake =>
    obtain ⟨-, rfl⟩ := wake_eq_some stepped
    rw [List.getElem?_map, Option.map_eq_some_iff] at gone
    obtain ⟨before, at_i, called⟩ := gone
    cases before <;> simp_all [Waiter.call]
  | arrive =>
    obtain rfl := Option.some.inj stepped
    rw [List.getElem?_append] at gone
    split at gone
    case isTrue => exact .inl gone
    case isFalse => simp [List.getElem?_singleton] at gone
  | listen k =>
    rcases gone_of_waiter stepped gone with before | ⟨-, now, did⟩
    · exact .inl before
    · exact absurd (Waiter.listen_eq_some did) (by simp)
  | look k =>
    rcases gone_of_waiter stepped gone with before | ⟨rfl, now, did⟩
    · exact .inl before
    · rcases Waiter.look_eq_some did with ⟨zero, -⟩ | ⟨-, called, settles⟩
      · exact .inr ⟨rfl, zero⟩
      · exact absurd settles (by simp)
  | settle k =>
    rcases gone_of_waiter stepped gone with before | ⟨-, now, did⟩
    · exact .inl before
    · rcases Waiter.settle_eq_some did with ⟨-, back⟩ | ⟨-, asleep⟩
      · exact absurd back (by simp)
      · exact absurd asleep (by simp)

/-- Whoever is done waiting saw a count of zero. -/
theorem sawZero_of_after (h : (idle workers).after? ms = some p) :
    ∀ i, p.waiters[i]? = some .gone → SawZero workers ms i := by
  refine after_induction (motive := fun ms p => ∀ i, p.waiters[i]? = some .gone →
    SawZero workers ms i) (fun i gone => by simp [idle] at gone) ?_ h
  intro ms m p q reached so stepped i gone
  rcases gone_of_step stepped gone with before | ⟨rfl, zero⟩
  · exact (so i before).snoc m
  · exact ⟨ms, [], p, rfl, reached, zero⟩

/-! ## What is left to do -/

theorem countP_ofJob (ms : List Move) : ms.countP (fun m => m.OfJob) =
    ms.countP Move.isStart + ms.countP Move.isFinish + ms.countP Move.isCount := by
  induction ms with
  | nil => rfl
  | cons m ms ih =>
    simp only [List.countP_cons, ih]
    cases m <;> simp [Move.OfJob, Move.isStart, Move.isFinish, Move.isCount] <;> omega

namespace Flows

variable (h : Flows workers ms p)

include h

/-- Jobs that cannot go on are all counted off: a permit that is missing is held by a job that
runs, and that job can end. -/
theorem nothing_left (stuck : ∀ m : Move, m.OfJob → p.step m = none) :
    p.waiting = [] ∧ p.running = [] ∧ p.ended = [] := by
  have no_ended : p.ended = [] := by
    refine List.eq_nil_iff_forall_not_mem.mpr fun job here => ?_
    simpa [Pool.step, here] using stuck (.count job) (by simp [Move.OfJob, Move.isCount])
  have no_running : p.running = [] := by
    refine List.eq_nil_iff_forall_not_mem.mpr fun job here => ?_
    simpa [Pool.step, here] using
      stuck (.finish job .success) (by simp [Move.OfJob, Move.isFinish])
  have free : 0 < p.free := by
    have := h.permits
    rw [no_running, List.length_nil] at this
    omega
  refine ⟨List.eq_nil_iff_forall_not_mem.mpr fun job here => ?_, no_running, no_ended⟩
  simpa [Pool.step, here, free] using stuck (.start job) (by simp [Move.OfJob, Move.isStart])

/-- A job that ended and was not counted off can be. -/
theorem countable {ending : Ending} (finished : .finish job ending ∈ ms) :
    ms.countP (Move.counts job) = 1 ∨ (p.step (.count job)).isSome := by
  have ends : 0 < ms.countP (Move.finishes job) :=
    List.countP_pos_iff.mpr ⟨_, finished, by simp [Move.finishes]⟩
  have waited := h.waited job
  have ran := h.ran job
  have ended := h.ended job
  by_cases here : job ∈ p.ended
  · exact .inr (by simp [Pool.step, here])
  · rw [List.count_eq_zero_of_not_mem here] at ended
    split at waited <;> exact .inl (by omega)

end Flows

/-- At the moment a job is counted off, the count is above zero. -/
theorem pending_of_count {before rest : List Move}
    (reached : (idle workers).after? (before ++ .count job :: rest) = some p) : ∃ b a,
    (idle workers).after? before = some b ∧ b.step (.count job) = some a ∧
      a.pending + 1 = b.pending := by
  rw [after?_append, Option.bind_eq_some_iff] at reached
  obtain ⟨b, until_then, from_then⟩ := reached
  obtain ⟨a, stepped, -⟩ := Option.bind_eq_some_iff.mp from_then
  obtain ⟨here, rfl⟩ := count_eq_some stepped
  have some_left := List.length_pos_of_mem here
  have outstanding := (Flows.of_after until_then).outstanding
  exact ⟨b, _, until_then, stepped, by simp only; omega⟩

/-! ## The books -/

/-- What a run from a pool without jobs says about the pool it leads to. -/
structure Books (workers : Nat) (ms : List Move) (p : Pool) : Prop where
  /-- The count is the number of jobs submitted and not counted off. -/
  outstanding : p.pending + ms.countP Move.isCount = ms.count .submit
  /-- Whenever a job is counted off the count is above zero, and goes down by one. -/
  positive : ∀ before job rest, ms = before ++ .count job :: rest → ∃ b a,
    (idle workers).after? before = some b ∧ b.step (.count job) = some a ∧
      a.pending + 1 = b.pending
  /-- The jobs that started and did not end are those that run, and they are not too many. -/
  bounded : ms.countP Move.isStart = ms.countP Move.isFinish + p.running.length ∧
    p.running.length ≤ max workers 1
  /-- A job runs, ends and is counted off at most once, in this order, and was submitted before. -/
  once : ∀ job, ms.countP (Move.counts job) ≤ ms.countP (Move.finishes job) ∧
    ms.countP (Move.finishes job) ≤ ms.countP (Move.starts job) ∧
    ms.countP (Move.starts job) ≤ if job < ms.count .submit then 1 else 0
  /-- A job that ended, in a panic too, was counted off or can be. -/
  countable : ∀ job ending, .finish job ending ∈ ms →
    ms.countP (Move.counts job) = 1 ∨ (p.step (.count job)).isSome
  /-- No run goes on with the jobs it has for ever. -/
  short : ms.countP (fun m => m.OfJob) ≤ 3 * ms.count .submit
  /-- When no job can go on, each was run and counted off. -/
  settled : (∀ m : Move, m.OfJob → p.step m = none) → ∀ job < ms.count .submit,
    ms.countP (Move.starts job) = 1 ∧ ms.countP (Move.counts job) = 1
  /-- Who is done waiting looked at the count when it was zero. -/
  left : ∀ i, p.waiters[i]? = some .gone → SawZero workers ms i
  /-- Nobody is asleep when the count is zero and everybody who owed the call has made it. -/
  awake : p.pending = 0 → p.waking = 0 → .asleep ∉ p.waiters

/-- The books of the pool are right after every run. -/
theorem books_right (workers : Nat) (ms : List Move) (p : Pool)
    (reached : (idle workers).after? ms = some p) : Books workers ms p := by
  have flows := Flows.of_after reached
  have submitted := flows.submitted
  have outstanding := flows.outstanding
  have allWaited := flows.allWaited
  have allRan := flows.allRan
  have allEnded := flows.allEnded
  exact {
    outstanding := by omega
    positive := by
      rintro before job rest rfl
      exact pending_of_count reached
    bounded := by
      have permits := flows.permits
      omega
    once := fun job => by
      have waited := flows.waited job
      have ran := flows.ran job
      have ended := flows.ended job
      rw [← submitted]
      omega
    countable := fun job ending finished => flows.countable finished
    short := by
      rw [countP_ofJob]
      omega
    settled := fun stuck job known => by
      obtain ⟨noWaiting, noRunning, noEnded⟩ := flows.nothing_left stuck
      have place := flows.somewhere (submitted ▸ known)
      have ran := flows.ran job
      have ended := flows.ended job
      rw [noWaiting, noRunning, noEnded] at place
      rw [noRunning] at ran
      rw [noEnded] at ended
      simp only [List.count_nil] at place ran ended
      omega
    left := sawZero_of_after reached
    awake := fun none_left no_call sleeps => by
      have := Called.of_after reached _ sleeps (.inr rfl)
      omega }

/-- One worker, two jobs of which one panics, and somebody who waits, sleeps and is called. -/
theorem books_of_panic : Books 1
    [.submit, .submit, .arrive, .start 0, .listen 0, .look 0, .finish 0 .panic, .settle 0, .count 0,
      .start 1, .finish 1 .success, .count 1, .wake, .listen 0, .look 0]
    ⟨1, 2, 0, [], [], [], 0, [.gone]⟩ :=
  books_right 1 _ _ (by decide)

end Pool

end Gazetteer
