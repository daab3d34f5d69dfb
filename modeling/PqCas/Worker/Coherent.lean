import PqCas.Worker.CloseOut

/-!
What the columns of a subtask and its report say about each other while its job is handled any number
of times. Which of the two final writes a job gets depends on its adapter only, so all tasks that handle
it write the same one.
-/

namespace PqCas

namespace Db

variable (db : Db)

def HasReport (id : Uuid) : Prop :=
  ∃ report ∈ db.subtaskReports, report.subtaskId = id

structure Coherent (row : SubtaskRow) : Prop where
  finished : row.execStatus = .finished →
    db.HasReport row.id
      ∧ row.reportStatus ≠ .missing
      ∧ row.resultStatus ∈ [ResultStatus.passed, .failed, .unsupported]
  error : row.execStatus = .error →
    ¬db.HasReport row.id ∧ row.reportStatus = .missing ∧ row.errorSummary ≠ none
  queued : row.execStatus = .queued → row.resultStatus = .pending ∧ ¬db.HasReport row.id

variable {db} {db' : Db}

theorem coherent_congr {row : SubtaskRow} (h : db'.HasReport row.id ↔ db.HasReport row.id)
    : db'.Coherent row ↔ db.Coherent row := by
  constructor
  . rintro ⟨hfinished, herror, hqueued⟩
    rw [h] at hfinished herror hqueued
    exact ⟨hfinished, herror, hqueued⟩
  . rintro ⟨hfinished, herror, hqueued⟩
    rw [← h] at hfinished herror hqueued
    exact ⟨hfinished, herror, hqueued⟩

theorem reportStatusOf_ne_missing (response : ProbeResponse)
    : SubtaskRow.reportStatusOf response ≠ .missing := by
  unfold SubtaskRow.reportStatusOf
  split
  . simp
  . split
    . simp
    . simp

theorem hasReport_saveReport {now : Time} {id : Uuid} {result : ResultStatus} {response : ProbeResponse}
    (h : db.saveReport now id result response = .ok db') (id' : Uuid)
    : db'.HasReport id' ↔ id' = id ∨ db.HasReport id' := by
  unfold HasReport
  rw [(of_saveReport h).2.2]
  exact Table.exists_key_upsert_iff

end Db

namespace coherent

variable {serde : Serde} (adapters : AdapterRegistry) (queue : List (ProbeEntry serde))

/--
All jobs of a subtask are the same job, those that wait for a worker are of subtasks that are queued,
and the subtasks are as `create_test` or an earlier handler left them.
-/
structure Fresh (db : Db) : Prop where
  job_unique : ∀ entry ∈ queue, ∀ entry' ∈ queue,
    entry.job.subtaskId = entry'.job.subtaskId → entry = entry'
  queued : ∀ entry ∈ queue, ∀ row ∈ db.subtasks, row.id = entry.job.subtaskId → row.execStatus = .queued
  agree : ∀ row ∈ db.subtasks, db.Coherent row

structure RowOk (db : Db) (row : SubtaskRow) : Prop where
  agree : db.Coherent row
  configured : ∀ entry ∈ queue, entry.job.subtaskId = row.id →
    adapters.isConfigured entry.job.adapter = true → row.execStatus ≠ .error
  disabled : ∀ entry ∈ queue, entry.job.subtaskId = row.id →
    adapters.isConfigured entry.job.adapter = false → ¬db.HasReport row.id

structure Inv (a : system.PhaseState serde) : Prop where
  threads_mem : ∀ t ∈ a.threads, t.1 ∈ queue
  rows : ∀ row ∈ a.world.db.subtasks, RowOk adapters queue a.world.db row

variable {adapters queue}

theorem rowOk_of_fresh {db : Db} (h : Fresh queue db) {row : SubtaskRow} (hrow : row ∈ db.subtasks)
    : RowOk adapters queue db row := by
  constructor
  case agree => exact h.agree row hrow
  case configured =>
    intro entry hentry hid _ herror
    rw [h.queued entry hentry row hrow hid.symm] at herror
    cases herror
  case disabled =>
    intro entry hentry hid _
    exact ((h.agree row hrow).queued (h.queued entry hentry row hrow hid.symm)).2

theorem rowOk_congr {db db' : Db} {row : SubtaskRow} (hreport : db'.HasReport row.id ↔ db.HasReport row.id)
    (h : RowOk adapters queue db row) : RowOk adapters queue db' row := by
  constructor
  case agree => exact (Db.coherent_congr hreport).mpr h.agree
  case configured => exact h.configured
  case disabled =>
    rw [hreport]
    exact h.disabled

section Rows

variable {db db' : Db} {t : ProbeEntry serde} {row : SubtaskRow}

theorem rowOk_start (h : RowOk adapters queue db row) (now : Time)
    : RowOk adapters queue db (row.start now) := by
  constructor
  case agree => constructor <;> rintro ⟨⟩
  case configured => rintro _ _ _ _ ⟨⟩
  case disabled => exact h.disabled

theorem rowOk_finish (hunique : ∀ entry ∈ queue, entry.job.subtaskId = t.job.subtaskId → entry = t)
    (hconf : adapters.isConfigured t.job.adapter = true) {result : ResultStatus}
    (hresult : result ∈ [ResultStatus.passed, .failed, .unsupported]) (now : Time)
    (response : ProbeResponse) (hid : row.id = t.job.subtaskId) (hreport : db'.HasReport t.job.subtaskId)
    : RowOk adapters queue db' (row.finish now result response) := by
  have hid' : (row.finish now result response).id = t.job.subtaskId := hid
  constructor
  case agree =>
    constructor
    case finished =>
      intro _
      rw [hid']
      exact ⟨hreport, Db.reportStatusOf_ne_missing response, hresult⟩
    case error => rintro ⟨⟩
    case queued => rintro ⟨⟩
  case configured => rintro _ _ _ _ ⟨⟩
  case disabled =>
    intro entry hentry hentryid hdisabled
    rw [hunique entry hentry (hentryid.trans hid'), hconf] at hdisabled
    cases hdisabled

theorem rowOk_fail (hunique : ∀ entry ∈ queue, entry.job.subtaskId = t.job.subtaskId → entry = t)
    (hconf : adapters.isConfigured t.job.adapter = false) (hmem : t ∈ queue) (now : Time) (reason : String)
    (hid : row.id = t.job.subtaskId) (h : RowOk adapters queue db row)
    : RowOk adapters queue db (row.fail now reason) := by
  have hnone : ¬db.HasReport row.id := h.disabled t hmem hid.symm hconf
  constructor
  case agree =>
    constructor
    case finished => rintro ⟨⟩
    case error => exact fun _ => ⟨hnone, rfl, by simp [SubtaskRow.fail]⟩
    case queued => rintro ⟨⟩
  case configured =>
    intro entry hentry hentryid hconfigured
    rw [hunique entry hentry (hentryid.trans hid), hconf] at hconfigured
    cases hconfigured
  case disabled => exact fun _ _ _ _ => hnone

end Rows

section Steps

variable {w w' : World} {ts₁ ts₂ : List (ProbeEntry serde × Phase)} {t : ProbeEntry serde}
variable {s s' : Phase}

theorem inv_idle (h : Inv adapters queue ⟨w, ts₁ ++ (t, s) :: ts₂⟩)
    (hsub : w'.db.subtasks = w.db.subtasks) (hreports : w'.db.subtaskReports = w.db.subtaskReports)
    : Inv adapters queue ⟨w', ts₁ ++ (t, s') :: ts₂⟩ := by
  constructor
  case threads_mem => exact Pool.forall_replace h.threads_mem id
  case rows =>
    intro row hrow
    apply rowOk_congr _ (h.rows row (hsub ▸ hrow))
    unfold Db.HasReport
    rw [hreports]

theorem inv_write (h : Inv adapters queue ⟨w, ts₁ ++ (t, s) :: ts₂⟩) {f : SubtaskRow → SubtaskRow}
    (hsub : w'.db.subtasks = Table.updateWhere w.db.subtasks (fun row => row.id = t.job.subtaskId) f)
    (hreports : ∀ id, id ≠ t.job.subtaskId → (w'.db.HasReport id ↔ w.db.HasReport id))
    (hrow : ∀ row ∈ w.db.subtasks, row.id = t.job.subtaskId → RowOk adapters queue w.db row →
      RowOk adapters queue w'.db (f row))
    : Inv adapters queue ⟨w', ts₁ ++ (t, s') :: ts₂⟩ := by
  constructor
  case threads_mem => exact Pool.forall_replace h.threads_mem id
  case rows =>
    intro row hmem
    rw [hsub, Table.mem_updateWhere] at hmem
    rcases hmem with ⟨old, hold, hid, rfl⟩ | ⟨hmem, hne⟩
    . exact hrow old hold (by simpa using hid) (h.rows old hold)
    . have hne : row.id ≠ t.job.subtaskId := by simpa using hne
      exact rowOk_congr (hreports row.id hne) (h.rows row hmem)

end Steps

theorem inv_perform {w w' : World} {ts₁ ts₂ : List (ProbeEntry serde × Phase)} {t : ProbeEntry serde}
    {s s' : Phase} {op : Op} {r : op.Reply} {env : Env}
    (hunique : ∀ entry ∈ queue, ∀ entry' ∈ queue,
      entry.job.subtaskId = entry'.job.subtaskId → entry = entry')
    (h : Inv adapters queue ⟨w, ts₁ ++ (t, s) :: ts₂⟩) (hexec : env.exec op w = (r, w'))
    (hs : Next adapters t.delivery t.job s op r s') : Inv adapters queue ⟨w', ts₁ ++ (t, s') :: ts₂⟩ := by
  have hmem : t ∈ queue := h.threads_mem (t, s) (by simp)
  have hunique : ∀ entry ∈ queue, entry.job.subtaskId = t.job.subtaskId → entry = t :=
    fun entry hentry => hunique entry hentry t hmem
  cases hs with
  | openTest =>
    obtain ⟨db', hok, rfl⟩ := Env.statement_ok hexec
    cases hok
    exact inv_idle h rfl rfl
  | startSubtask =>
    obtain ⟨db', hok, rfl⟩ := Env.statement_ok hexec
    cases hok
    refine inv_write h (f := .start env.now) ?_ ?_ ?_
    . rfl
    . exact fun _ _ => Iff.rfl
    . intro row _ _ hrow
      apply rowOk_start
      apply rowOk_congr _ hrow
      exact Iff.rfl
  | call hop =>
    have hdb := (env.exec_call hop w).1
    rw [hexec] at hdb
    exact inv_idle h (by rw [hdb]) (by rw [hdb])
  | @save result response hconf hresult =>
    obtain ⟨db', hok, rfl⟩ := Env.statement_ok hexec
    have hreport := Db.hasReport_saveReport hok
    apply inv_write h ((Db.of_saveReport hok).2.1)
    . intro id hne
      rw [hreport]
      simp [hne]
    . intro row _ hid _
      exact rowOk_finish hunique hconf hresult env.now response hid ((hreport _).mpr (.inl rfl))
  | @failSubtask reason hconf =>
    obtain ⟨db', hok, rfl⟩ := Env.statement_ok hexec
    cases hok
    refine inv_write h (f := .fail env.now reason) ?_ ?_ ?_
    . rfl
    . exact fun _ _ => Iff.rfl
    . intro row _ hid hrow
      apply rowOk_fail hunique hconf hmem env.now reason hid
      apply rowOk_congr _ hrow
      exact Iff.rfl
  | close =>
    obtain ⟨db', hok, rfl⟩ := Env.statement_ok hexec
    cases hok
    exact inv_idle h rfl rfl
  | openTestFails e | startSubtaskFails e | saveFails e | failSubtaskFails e | closeFails e =>
    have hw := Env.statement_error hexec
    exact inv_idle h (by rw [hw]) (by rw [hw])
  | announce | announceFails e | countSome hc | countNone hc | countFails e | finish | ack =>
    simp only [Env.exec] at hexec
    split at hexec <;> cases hexec <;> exact inv_idle h rfl rfl

theorem inv_step {good : Env → Prop} {a a' : system.PhaseState serde}
    {l : Pool.Label (ProbeEntry serde) Op}
    (hunique : ∀ entry ∈ queue, ∀ entry' ∈ queue,
      entry.job.subtaskId = entry'.job.subtaskId → entry = entry')
    (h : Inv adapters queue a) (hstep : system.PhaseStep good adapters queue a l a')
    : Inv adapters queue a' := by
  cases hstep with
  | spawn t ht => exact ⟨List.forall_mem_cons.mpr ⟨ht.1, h.threads_mem⟩, h.rows⟩
  | perform t op phase phase' r hexec hs =>
    obtain ⟨env, -, hexec⟩ := hexec
    exact inv_perform hunique h hexec hs

/--
In every state that is reached from fresh tables, all subtasks are coherent: for any interleaving of
the tasks of any number of workers with one registry, any number of deliveries of a job, and whichever
steps fail.
-/
theorem coherent_of_reachable {good : Env → Prop} {w : World} {s : system.State serde}
    (hfresh : Fresh queue w.db) (hreach : system.Reachable good adapters queue w s)
    : ∀ row ∈ s.world.db.subtasks, s.world.db.Coherent row := by
  have hinit : Inv adapters queue ⟨w, []⟩ := ⟨by simp, fun row hrow => rowOk_of_fresh hfresh hrow⟩
  obtain ⟨a, hsim, ha⟩ := system.reachable_invariant hinit
    (fun _ _ _ => inv_step hfresh.job_unique) hreach
  rw [hsim.world]
  exact fun row hrow => (ha.rows row hrow).agree

theorem labFresh : Fresh [closeOut.labEntry] probe.labWorld.db := by
  constructor
  case job_unique => simp
  case queued =>
    intro entry _ row hrow _
    exact closeOut.labCreated.queued row hrow
  case agree =>
    intro row hrow
    cases List.mem_singleton.mp hrow
    constructor
    case finished => rintro ⟨⟩
    case error => rintro ⟨⟩
    case queued =>
      intro _
      refine ⟨rfl, ?_⟩
      rintro ⟨report, hreport, -⟩
      cases hreport

set_option maxRecDepth 10000 in
theorem coherent_of_reachable_lab
    : ∃ s : system.State tick.labSerde,
        system.Reachable Env.Faultless probe.labRegistry [closeOut.labEntry] probe.labWorld s
          ∧ (∃ row ∈ s.world.db.subtasks, row.execStatus = .finished)
          ∧ ∀ row ∈ s.world.db.subtasks, s.world.db.Coherent row := by
  have hinit : system.Reachable Env.Faultless probe.labRegistry [closeOut.labEntry] probe.labWorld
      (system.init probe.labWorld) := .refl
  have hfirst := system.reachable_stop hinit probe.labEnv_faultless
    (⟨by simp, by decide⟩ : system.Deliverable _ _ closeOut.labEntry) 1
  have hsecond := system.reachable_run hfirst probe.labEnv_faultless
    (⟨by simp, by decide⟩ : system.Deliverable _ _ closeOut.labEntry)
  refine ⟨_, hsecond, ?_, coherent_of_reachable labFresh hsecond⟩
  rw [closeOut.labEntry.task_eq]
  exact ⟨_, List.mem_singleton.mpr rfl, rfl⟩

end coherent

end PqCas
