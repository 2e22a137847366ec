import Gazetteer.Proofs.Integrity

/-!
# Jobs in flight

An import answers while its jobs still wait. Workers take the jobs up one at a time and in any
order, and other calls may come in between.

* `Command.issue`: a call that leaves the jobs it submits in flight.
* `Step`, `advance`: a call or the execution of a job, and steps one after another.
* `Attainable`: the directories that steps from an empty one lead to.
* `Turn.issue_keeps`, `Step.execute_keeps`: what is to be shown of a property that steps keep.
* `Attainable.tables_keep`: a property of the tables that writes and links keep.
* `Numbered`: the jobs in flight, each the only one of a merchant.
-/

set_option autoImplicit false

namespace Gazetteer

/-! ## Steps -/

/-- A call. The jobs of an import stay in flight. -/
def Command.issue (who : Principal) : Command → Action Reply
  | .importFile c => .report <$> Import.importBytes c.importer who c.autoGeocode c.bytes
  | c => c.perform who

/-- The reply to the command of a turn, and the directory with the jobs still in flight. -/
def Turn.issue (t : Turn) (d : Directory) : Except Failure Reply × Directory :=
  t.command.issue t.who { d with now := t.moment }

inductive Step where
  | call (t : Turn)
  /-- A worker executes the job at a place among those in flight, if there is one. -/
  | execute (moment : Timestamp) (chain : List Provider) (index : Nat)

namespace Step

def take : Step → Directory → Directory
  | .call t, d => (t.issue d).2
  | .execute moment chain index, d =>
    match d.queue[index]? with
    | none => d
    | some job =>
      (Geocoding.runJob chain job
        { d with now := moment, queue := d.queue.eraseIdx index }).2

end Step

/-- The directory after some steps. -/
def advance (steps : List Step) (d : Directory) : Directory :=
  steps.foldl (fun d s => s.take d) d

/-- Steps from an empty directory lead to this one. -/
def Attainable (d : Directory) : Prop :=
  ∃ engine moment steps, d = advance steps (.empty engine moment)

/-- What every step keeps, steps one after another keep. -/
theorem advance_keeps {P : Directory → Prop} {steps : List Step} {d : Directory}
    (step : ∀ s ∈ steps, ∀ d, P d → P (s.take d)) (start : P d) : P (advance steps d) := by
  induction steps generalizing d with
  | nil => exact start
  | cons s rest ih =>
    have first := step s List.mem_cons_self d start
    exact ih (fun s hs => step s (List.mem_cons_of_mem _ hs)) first

theorem Attainable.induction {P : Directory → Prop} {d : Directory} (h : Attainable d)
    (start : ∀ engine moment, P (.empty engine moment))
    (step : ∀ (s : Step) (d : Directory), P d → P (s.take d)) : P d := by
  obtain ⟨engine, moment, steps, rfl⟩ := h
  exact advance_keeps (fun s _ => step s) (start engine moment)

theorem Attainable.step {d : Directory} (h : Attainable d) (s : Step) : Attainable (s.take d) := by
  obtain ⟨engine, moment, steps, rfl⟩ := h
  refine ⟨engine, moment, steps ++ [s], ?_⟩
  rw [advance, advance, List.foldl_append]
  rfl

/-- A worker finds no job at the place, or the job leaves the queue and is executed. -/
theorem Step.execute_keeps {P : Directory → Prop} {moment : Timestamp} {chain : List Provider}
    {index : Nat} {d : Directory} (start : P d)
    (run : ∀ job, d.queue[index]? = some job →
      P (Geocoding.link chain job { d with now := moment, queue := d.queue.eraseIdx index }).2) :
    P ((Step.execute moment chain index).take d) := by
  rw [take]
  cases hj : d.queue[index]? with
  | none => exact start
  | some job => exact run job hj

/-! ## What a call does to the jobs in flight -/

namespace Import

theorem create_numbered {who : Principal} {draft : MerchantDraft} {d d' : Directory} {m : Merchant}
    (h : Merchants.create who draft d = (.ok m, d')) :
    m.id = d.tables.merchants.next ∧ d'.tables.merchants.last = m.id := by
  rw [Merchants.create_eq] at h
  obtain ⟨_, _, rfl, rfl⟩ := Action.guarded_eq_ok h
  have merchants : (d.tables.enroll d.engine d.now who draft).2.merchants = _ :=
    Tables.enroll_merchants d.now draft
  exact ⟨rfl, congrArg Table.last merchants⟩

/-- A row leaves everything alone, or its merchant gets the next id and perhaps a job. -/
theorem importRow_keeps {P : Directory → Prop} {i : Importer} {who : Principal} {geocoding : Bool}
    (submits : ∀ d d' m, Wrote who d d' → m.id = d.tables.merchants.next →
      d'.tables.merchants.last = m.id → P d →
      P { d' with queue := d'.queue ++ jobsOf geocoding m })
    (r : Row) {d : Directory} (start : P d) : P (importRow i who geocoding r d).2 := by
  have done := importRow_done i who geocoding r d
  generalize importRow i who geocoding r d = after at done
  cases done with
  | rejected ps _ => exact start
  | imported tags m d' _ _ created =>
    have wrote := Merchants.create_wrote who d (r.draft tags)
    rw [created] at wrote
    obtain ⟨id, last⟩ := create_numbered created
    exact submits d d' m wrote id last start

end Import

/-- A call links an address, or it comes down to writes of the caller; an import also puts jobs of
new merchants into the queue. -/
theorem Turn.issue_keeps {P : Directory → Prop} {t : Turn}
    (linked : ∀ chain job d, t.command = .geocoding (.link chain job) → P d →
      P (Geocoding.link chain job d).2)
    (wrote : ∀ d d', Wrote t.who d d' → P d → P d')
    (submits : ∀ geocoding d d' m, Wrote t.who d d' → m.id = d.tables.merchants.next →
      d'.tables.merchants.last = m.id → P d →
      P { d' with queue := d'.queue ++ Import.jobsOf geocoding m })
    {d : Directory} (start : P d) : P (t.issue d).2 := by
  have ready : P { d with now := t.moment } := wrote d _ ⟨rfl, rfl, .refl⟩ start
  rw [issue]
  cases hc : t.command with
  | merchants c => exact wrote _ _ (c.perform_wrote t.who _) ready
  | tags c => exact wrote _ _ (c.perform_wrote t.who _) ready
  | points c => exact wrote _ _ (c.perform_wrote t.who _) ready
  | geocoding c =>
    cases c with
    | link chain job =>
      have done := linked chain job _ hc ready
      rwa [← map_snd .point] at done
    | _ => exact wrote _ _ (GeocodingCommand.perform_wrote t.who _ _ rfl) ready
  | importFile c =>
    rw [Command.issue, map_snd]
    refine Import.importBytes_keeps ?_ c.bytes ready
    intro r d h
    exact Import.importRow_keeps (submits _) r h

/-- What every write of a caller and every link keeps of the tables, calls and jobs keep. -/
theorem Attainable.tables_keep {P : Engine → Tables → Prop} {d : Directory} (reached : Attainable d)
    (start : ∀ e, P e .empty)
    (write : ∀ {e who t t'}, Write e who t t' → P e t → P e t')
    (linked : ∀ {job d r}, Geocoding.Linked job d r → P d.engine d.tables →
      P r.2.engine r.2.tables) : P d.engine d.tables := by
  let Q : Directory → Prop := fun d => P d.engine d.tables
  have wrote : ∀ {who : Principal} {d d' : Directory}, Wrote who d d' → Q d → Q d' := by
    intro who d d' w h
    have kept : P d.engine d'.tables := w.writes.keeps (fun _ _ w h => write w h) h
    show P d'.engine d'.tables
    rw [w.engine]
    exact kept
  refine reached.induction (P := Q) (fun e _ => start e) ?_
  intro s d h
  cases s with
  | call t =>
    refine Turn.issue_keeps (P := Q) ?_ (fun _ _ w h => wrote w h) ?_ h
    · intro chain job d _ h
      exact linked (Geocoding.link_linked chain job d) h
    · intro geocoding d d' m w _ _ h
      have kept : Q d' := wrote w h
      exact kept
  | execute moment chain index =>
    refine Step.execute_keeps (P := Q) h ?_
    intro job _
    exact linked (Geocoding.link_linked chain job _) h

/-! ## Jobs and merchants -/

/-- The job is one of the merchant. -/
def Job.isFor (m : Int) (j : Job) : Bool := j.merchant == some m

/-- The jobs in flight are those of imports, no two of one merchant, and the ids of their merchants
were given out. -/
structure Numbered (d : Directory) : Prop where
  distinct : (d.queue.map Job.merchant).Nodup
  given : ∀ j ∈ d.queue, ∃ m, j.merchant = some m ∧ m ≤ d.tables.merchants.last
  imported : ∀ j ∈ d.queue, j.source = Import.source

namespace Numbered

theorem empty (engine : Engine) (moment : Timestamp) : Numbered (.empty engine moment) :=
  ⟨.nil, (fun _ h => nomatch h), (fun _ h => nomatch h)⟩

theorem wrote {who : Principal} {d d' : Directory} (h : Numbered d) (w : Wrote who d d') :
    Numbered d' where
  distinct := w.queue ▸ h.distinct
  given := by
    intro j hj
    obtain ⟨m, hm, le⟩ := h.given j (w.queue ▸ hj)
    exact ⟨m, hm, Int.le_trans le w.grows.merchants.last⟩
  imported := w.queue ▸ h.imported

/-- The id of a new merchant is past those of all jobs that were in flight before. -/
theorem submits {who : Principal} {geocoding : Bool} {d d' : Directory} {m : Merchant}
    (h : Numbered d) (w : Wrote who d d') (id : m.id = d.tables.merchants.next)
    (last : d'.tables.merchants.last = m.id) :
    Numbered { d' with queue := d'.queue ++ Import.jobsOf geocoding m } := by
  have kept := h.wrote w
  rw [Import.jobsOf]
  split
  · refine ⟨?_, ?_, ?_⟩
    · rw [List.map_append, w.queue]
      refine List.nodup_append.2 ⟨h.distinct, List.nodup_singleton _, ?_⟩
      intro x hx y hy
      obtain ⟨j, hj, rfl⟩ := List.mem_map.1 hx
      obtain ⟨n, hn, le⟩ := h.given j hj
      obtain rfl := List.mem_singleton.1 hy
      intro same
      have : n = m.id := Option.some.inj (hn.symm.trans same)
      rw [id, Table.next] at this
      omega
    · intro j hj
      obtain hj | hj := List.mem_append.1 hj
      · exact kept.given j hj
      · obtain rfl := List.mem_singleton.1 hj
        exact ⟨m.id, rfl, Int.le_of_eq last.symm⟩
    · intro j hj
      obtain hj | hj := List.mem_append.1 hj
      · exact kept.imported j hj
      · obtain rfl := List.mem_singleton.1 hj
        rfl
  · rw [List.append_nil]
    exact kept

theorem linked {job : Job} {d : Directory} {r : Except Failure GeoPoint × Directory}
    (h : Numbered d) (l : Geocoding.Linked job d r) : Numbered r.2 where
  distinct := l.queue ▸ h.distinct
  given := l.queue ▸ l.merchants ▸ h.given
  imported := l.queue ▸ h.imported

theorem take {s : Step} {d : Directory} (h : Numbered d) : Numbered (s.take d) := by
  cases s with
  | call t =>
    refine Turn.issue_keeps ?_ ?_ ?_ h
    · intro chain job d _ h
      exact h.linked (Geocoding.link_linked chain job d)
    · intro d d' w h
      exact h.wrote w
    · intro geocoding d d' m w id last h
      exact h.submits w id last
  | execute moment chain index =>
    refine Step.execute_keeps h ?_
    intro job _
    have fewer : (d.queue.eraseIdx index).Sublist d.queue := List.eraseIdx_sublist ..
    have left : Numbered { d with now := moment, queue := d.queue.eraseIdx index } :=
      ⟨h.distinct.sublist (fewer.map _), fun j hj => h.given j (fewer.subset hj),
        fun j hj => h.imported j (fewer.subset hj)⟩
    exact left.linked (Geocoding.link_linked chain job _)

/-- Of each merchant there is one job in flight at most. -/
theorem countP_isFor_le {d : Directory} (h : Numbered d) (m : Int) :
    d.queue.countP (Job.isFor m) ≤ 1 := by
  have counted : d.queue.countP (Job.isFor m) = (d.queue.map Job.merchant).count (some m) := by
    rw [List.count, List.countP_map]
    rfl
  rw [counted]
  exact List.nodup_iff_count_le_one.1 h.distinct (some m)

end Numbered

theorem Attainable.numbered {d : Directory} (h : Attainable d) : Numbered d :=
  h.induction Numbered.empty fun _ _ h => h.take

end Gazetteer
