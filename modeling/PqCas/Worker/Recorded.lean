import PqCas.Worker.Tick
import PqCas.Worker.Verdict

/-!
What is on the rows once the task of a probe delivery has acknowledged its stream entry, for every
choice of failing steps.
-/

namespace PqCas

namespace Db

variable (db : Db) (job : ProbeJob)

def SubtaskTerminal : Prop :=
  ∃ row, db.subtask? job.subtaskId = some row ∧ row.execStatus.outstanding = false

def OthersTerminal : Prop :=
  ∀ row ∈ db.subtasksOf job.testId, row.id ≠ job.subtaskId → row.execStatus.outstanding = false

def TestClosed (testId : Uuid) : Prop :=
  ∃ test, db.test? testId = some test ∧ test.status.closed = true

def Recorded : Prop :=
  db.SubtaskTerminal job ∧ (db.OthersTerminal job → db.TestClosed job.testId)

variable {db job}

theorem othersTerminal_updateWhere {db' : Db} (f : SubtaskRow → SubtaskRow)
    (hid : ∀ row, (f row).id = row.id) (htest : ∀ row, (f row).testId = row.testId)
    (h : db'.subtasks = Table.updateWhere db.subtasks (fun row => row.id = job.subtaskId) f)
    : db'.OthersTerminal job ↔ db.OthersTerminal job := by
  have hmem : ∀ row : SubtaskRow, row.id ≠ job.subtaskId →
      (row ∈ db'.subtasksOf job.testId ↔ row ∈ db.subtasksOf job.testId) := by
    intro row hne
    unfold subtasksOf
    rw [h, Table.filter_updateWhere (by simp [htest]), Table.mem_updateWhere]
    simp only [decide_eq_true_eq, decide_eq_false_iff_not]
    constructor
    . rintro (⟨old, -, hold, rfl⟩ | ⟨hrow, -⟩)
      . exact absurd ((hid old).trans hold) hne
      . exact hrow
    . exact fun hrow => .inr ⟨hrow, hne⟩
  unfold OthersTerminal
  constructor
  . exact fun hall row hrow hne => hall row ((hmem row hne).mpr hrow) hne
  . exact fun hall row hrow hne => hall row ((hmem row hne).mp hrow) hne

theorem outstanding_eq_zero_iff {testId : Uuid}
    : (db.countSubtasks testId).outstanding = 0
        ↔
      ∀ row ∈ db.subtasksOf testId, row.execStatus.outstanding = false := by
  simp [countSubtasks, SubtaskCounts.ofRows, List.countP_eq_zero]

theorem closed_closeOutStatus (c : SubtaskCounts) : c.closeOutStatus.closed = true := by
  unfold SubtaskCounts.closeOutStatus
  split <;> rfl

theorem testClosed_closeTest (now : Time) {testId : Uuid} {test : TestRow}
    (h : db.test? testId = some test) (c : SubtaskCounts)
    : (db.closeTest now testId c.closeOutStatus).TestClosed testId := by
  refine ⟨test.close now c.closeOutStatus, ?_, ?_⟩
  . rw [test?_closeTest, h]
    rfl
  . apply closed_closeOutStatus

theorem testClosed_closeTest_of_ne {now : Time} {testId id : Uuid} (h : id ≠ testId)
    {status : TaskStatus}
    : (db.closeTest now testId status).TestClosed id ↔ db.TestClosed id := by
  unfold TestClosed
  rw [test?_closeTest_of_ne db now id h]

theorem testClosed_markTestRunning {now : Time} {testId id : Uuid}
    : (db.markTestRunning now testId).TestClosed id ↔ db.TestClosed id := by
  constructor
  . rintro ⟨test, htest, hclosed⟩
    exact ⟨test, (test?_markTestRunning_of_closed db now id hclosed testId).mp htest, hclosed⟩
  . rintro ⟨test, htest, hclosed⟩
    exact ⟨test, (test?_markTestRunning_of_closed db now id hclosed testId).mpr htest, hclosed⟩

end Db

namespace probe

variable (adapters : AdapterRegistry) (env : Env) (job : ProbeJob)

def WriteFails : Prop :=
  if adapters.isConfigured job.adapter then
    env.saveFailure ≠ none
  else
    env.fails .markSubtaskError ≠ none

def CloseOutFails : Prop :=
  env.fails .publishSubtaskUpdated ≠ none ∨ env.fails .countSubtasks ≠ none
    ∨ env.fails .closeTest ≠ none

variable {adapters env job} {db : Db}

theorem finishDb_testClosed_iff {test : TestRow} (htest : db.test? job.testId = some test)
    (hown : ∀ row ∈ db.subtasks, row.id = job.subtaskId → row.execStatus.outstanding = false)
    : ((finishDb env job db).OthersTerminal job → (finishDb env job db).TestClosed job.testId)
        ↔
      (env.fails .countSubtasks ≠ none ∨ env.fails .closeTest ≠ none →
        db.OthersTerminal job → db.TestClosed job.testId) := by
  have hzero : (db.countSubtasks job.testId).outstanding = 0 ↔ db.OthersTerminal job := by
    rw [Db.outstanding_eq_zero_iff]
    constructor
    . exact fun h row hrow _ => h row hrow
    . intro h row hrow
      by_cases hid : row.id = job.subtaskId
      . exact hown row (List.mem_of_mem_filter hrow) hid
      . exact h row hrow hid
  unfold finishDb
  dsimp
  split
  . next h =>
    obtain ⟨hcount, -, hclose⟩ := h
    have hclosed := Db.testClosed_closeTest env.now htest (db.countSubtasks job.testId)
    simp [hcount, hclose, hclosed]
  . next h =>
    rw [hzero] at h
    tauto

structure Settles (f : SubtaskRow → SubtaskRow) : Prop where
  id : ∀ row, (f row).id = row.id
  testId : ∀ row, (f row).testId = row.testId
  settled : ∀ row, (f row).execStatus.outstanding = false

theorem settles_finish (now : Time) (result : ResultStatus) (response : ProbeResponse)
    : Settles (.finish now result response) :=
  ⟨fun _ => rfl, fun _ => rfl, fun _ => rfl⟩

theorem settles_fail (now : Time) (reason : String) : Settles (.fail now reason) :=
  ⟨fun _ => rfl, fun _ => rfl, fun _ => rfl⟩

theorem terminalWrite_error {w : World} (h : WriteFails adapters env job)
    : ∃ e, terminalWrite adapters env w job db = .error e := by
  unfold WriteFails at h
  unfold terminalWrite
  split at h
  . next hconf =>
    obtain ⟨e, he⟩ := Option.ne_none_iff_exists'.mp h
    exact ⟨e, by simp [hconf, he]⟩
  . next hconf =>
    obtain ⟨e, he⟩ := Option.ne_none_iff_exists'.mp h
    exact ⟨e, by simp [hconf, he]⟩

theorem terminalWrite_ok {w : World} {row : SubtaskRow} (h : ¬ WriteFails adapters env job)
    (hrow : db.subtask? job.subtaskId = some row)
    : ∃ db' f,
        terminalWrite adapters env w job db = .ok db'
          ∧ Settles f
          ∧ db'.tests = db.tests
          ∧ db'.subtasks = Table.updateWhere db.subtasks (fun row => row.id = job.subtaskId) f := by
  unfold WriteFails at h
  unfold terminalWrite
  split at h
  . next hconf =>
    obtain ⟨db', hsave, htests, hsubtasks, -⟩ := Db.saveReport_of_subtask? env.now hrow
      (result adapters env w job) (response adapters env w job)
    refine ⟨db', _, ?_, settles_finish _ _ _, htests, hsubtasks⟩
    simpa [hconf, not_not.mp h] using hsave
  . next hconf =>
    refine ⟨db.markSubtaskError env.now job.subtaskId (disabledReason job), _, ?_,
      settles_fail env.now (disabledReason job), rfl, rfl⟩
    simp [hconf, not_not.mp h]

/--
What has to be true of the failing steps and of the tables before a handler runs for its subtask and
its test to be settled afterwards.
-/
def Records (adapters : AdapterRegistry) (env : Env) (job : ProbeJob) (db : Db) : Prop :=
  if env.fails .markTestRunning ≠ none ∨ env.fails .markSubtaskRunning ≠ none then
    db.Recorded job
  else
    ¬ WriteFails adapters env job
      ∧ (CloseOutFails env → db.OthersTerminal job → db.TestClosed job.testId)

theorem recorded_markTestRunning {now : Time}
    : (db.markTestRunning now job.testId).Recorded job ↔ db.Recorded job := by
  unfold Db.Recorded
  rw [Db.testClosed_markTestRunning]
  rfl

theorem running_spec {w : World} {row : SubtaskRow} {test : TestRow} {running : Db} {now : Time}
    (hrow : w.db.subtask? job.subtaskId = some row) (htest : w.db.test? job.testId = some test)
    (h : running = (w.db.markTestRunning now job.testId).markSubtaskRunning now job.subtaskId)
    : running.subtask? job.subtaskId = some (row.start now)
        ∧ (∃ test', running.test? job.testId = some test')
        ∧ (running.OthersTerminal job ↔ w.db.OthersTerminal job)
        ∧ (running.TestClosed job.testId ↔ w.db.TestClosed job.testId) := by
  subst h
  refine ⟨?_, ?_, ?_, ?_⟩
  . rw [Db.subtask?_markSubtaskRunning, Db.subtask?_markTestRunning, hrow]
    rfl
  . have hstart := w.db.test?_markTestRunning now job.testId job.testId
    rw [htest] at hstart
    exact ⟨_, hstart⟩
  . exact Db.othersTerminal_updateWhere (.start now) (fun _ => rfl) (fun _ => rfl) rfl
  . exact Db.testClosed_markTestRunning

theorem saved_spec {running saved : Db} {row : SubtaskRow} {f : SubtaskRow → SubtaskRow}
    (hown : running.subtask? job.subtaskId = some row) (hf : Settles f)
    (htests : saved.tests = running.tests)
    (hsubtasks : saved.subtasks
      = Table.updateWhere running.subtasks (fun row => row.id = job.subtaskId) f)
    : saved.SubtaskTerminal job
        ∧ (∀ row ∈ saved.subtasks, row.id = job.subtaskId → row.execStatus.outstanding = false)
        ∧ (saved.OthersTerminal job ↔ running.OthersTerminal job)
        ∧ (saved.TestClosed job.testId ↔ running.TestClosed job.testId) := by
  refine ⟨⟨f row, ?_, hf.settled row⟩, ?_, ?_, ?_⟩
  . have hfind : saved.subtask? job.subtaskId = (running.subtask? job.subtaskId).map f := by
      unfold Db.subtask?
      rw [hsubtasks]
      apply Table.find?_updateWhere
      exact hf.id
    rw [hfind, hown]
    rfl
  . intro row hrow hid
    rw [hsubtasks, Table.mem_updateWhere] at hrow
    rcases hrow with ⟨old, -, -, rfl⟩ | ⟨-, hne⟩
    . apply hf.settled
    . simp [hid] at hne
  . exact Db.othersTerminal_updateWhere f hf.id hf.testId hsubtasks
  . unfold Db.TestClosed Db.test?
    rw [htests]

theorem subtaskTerminal_finishDb : (finishDb env job db).SubtaskTerminal job ↔ db.SubtaskTerminal job := by
  unfold finishDb
  dsimp
  split <;> rfl

theorem handle_recorded_iff {w : World} {row : SubtaskRow} {test : TestRow}
    (hrow : w.db.subtask? job.subtaskId = some row) (htest : w.db.test? job.testId = some test)
    : ((handle adapters job).eval env w).2.db.Recorded job ↔ Records adapters env job w.db := by
  rw [eval_handle_db]
  unfold Records
  cases hstart : env.fails .markTestRunning with
  | some e => simp
  | none =>
    cases hrun : env.fails .markSubtaskRunning with
    | some e => simp [recorded_markTestRunning]
    | none =>
      simp only [ne_eq, not_true_eq_false, or_self, ↓reduceIte]
      generalize hrunning :
        (w.db.markTestRunning env.now job.testId).markSubtaskRunning env.now job.subtaskId = running
      obtain ⟨hown, ⟨test', htest'⟩, hothers, hclosed⟩ := running_spec hrow htest hrunning.symm
      by_cases hw : WriteFails adapters env job
      . obtain ⟨e, he⟩ := terminalWrite_error hw
        rw [he]
        simp [hw, Db.Recorded, Db.SubtaskTerminal, hown, SubtaskRow.start, ExecStatus.outstanding]
      . obtain ⟨saved, f, hsaved, hf, htests, hsubtasks⟩ := terminalWrite_ok hw hown
        rw [hsaved]
        rw [← hothers, ← hclosed]
        obtain ⟨hterm, hall, hothers', hclosed'⟩ := saved_spec hown hf htests hsubtasks
        have htest'' : saved.test? job.testId = some test' := by
          unfold Db.test? at htest' ⊢
          rw [htests]
          exact htest'
        simp only [hw, not_false_eq_true, true_and, CloseOutFails, Db.Recorded]
        cases hpub : env.fails .publishSubtaskUpdated with
        | some e => simp [hterm, hothers', hclosed']
        | none =>
          simp only [subtaskTerminal_finishDb, hterm, true_and, ne_eq, not_true_eq_false, false_or]
          rw [finishDb_testClosed_iff htest'' hall, hothers', hclosed']

end probe

namespace tick

variable (serde : Serde) (adapters : AdapterRegistry) (env : Env)

def Records (delivery : Delivery) (job : ProbeJob) (db : Db) : Prop :=
  match serde.probeJob delivery.payload with
  | .ok _ => probe.Records adapters env job db
  | .error _ => db.Recorded job

theorem run_task (delivery : Delivery) (w : World) (hack : env.fails .ack = none)
    : ((task serde adapters delivery).run env.exec w).2
        =
      { ((dispatch serde adapters delivery).eval env w).2 with
        acked := ((dispatch serde adapters delivery).eval env w).2.acked
          ++ [(delivery.stream, delivery.id)] } := by
  unfold task
  rw [Prog.run_bind]
  change (env.exec (.ack delivery.stream delivery.id)
    ((dispatch serde adapters delivery).eval env w).2).2 = _
  simp [Env.exec, hack]

variable {serde adapters env}

theorem dispatch_probe {delivery : Delivery} {job : ProbeJob} (hstream : delivery.stream = STREAM_PROBE)
    (hdecode : serde.probeJob delivery.payload = .ok job)
    : dispatch serde adapters delivery = probe.handle adapters job := by
  unfold dispatch
  rw [if_pos hstream, hdecode]

/--
A probe delivery is always acknowledged, and its subtask and test are settled then exactly when
`Records` held before: no step up to the write of the row fails (unless the row was settled already),
and no step from there to the close-out fails (unless the test was closed already or something else
is outstanding).
-/
theorem task_recorded_iff {delivery : Delivery} {job : ProbeJob} {w : World} {row : SubtaskRow}
    {test : TestRow} (hstream : delivery.stream = STREAM_PROBE)
    (hjob : ∀ j, serde.probeJob delivery.payload = .ok j → j = job)
    (hack : env.fails .ack = none) (hrow : w.db.subtask? job.subtaskId = some row)
    (htest : w.db.test? job.testId = some test)
    : (delivery.stream, delivery.id) ∈ ((task serde adapters delivery).run env.exec w).2.acked
        ∧
      (((task serde adapters delivery).run env.exec w).2.db.Recorded job
        ↔
      Records serde adapters env delivery job w.db) := by
  rw [run_task serde adapters env delivery w hack]
  refine ⟨by simp, ?_⟩
  unfold dispatch Records
  rw [if_pos hstream]
  cases hdecode : serde.probeJob delivery.payload with
  | error e => rfl
  | ok j =>
    cases hjob j hdecode
    exact probe.handle_recorded_iff hrow htest

def labPayload : String :=
  "\x7b\"test_id\":\"00000000-0000-0000-0000-000000000001\","
    ++ "\"subtask_id\":\"00000000-0000-0000-0000-000000000002\","
    ++ "\"host\":\"tls-good\",\"port\":443,\"http_path\":\"/\",\"adapter\":\"openssl\","
    ++ "\"group_name\":\"X25519MLKEM768\",\"sig_alg\":\"mldsa65\",\"timeout_ms\":15000\x7d"

def labSerde : Serde :=
  {
    probeJob := fun payload =>
      if payload = labPayload then
        .ok (probe.labJob "X25519MLKEM768" "mldsa65")
      else
        .error "missing field test_id"
    kemJob := fun _ => .error "missing field run_id"
  }

def labDelivery : Delivery :=
  ⟨STREAM_PROBE, "1700000000000-0", labPayload⟩

theorem labSerde_probeJob
    : labSerde.probeJob labDelivery.payload = .ok (probe.labJob "X25519MLKEM768" "mldsa65") := by
  simp [labSerde, labDelivery]

def commitFails : Env :=
  { probe.labEnv with fails := fun step => if step = .saveCommit then some "connection reset" else none }

theorem task_recorded_lab
    : (labDelivery.stream, labDelivery.id)
          ∈ ((task labSerde probe.labRegistry labDelivery).run probe.labEnv.exec probe.labWorld).2.acked
        ∧
      ((task labSerde probe.labRegistry labDelivery).run probe.labEnv.exec probe.labWorld).2.db.Recorded
        (probe.labJob "X25519MLKEM768" "mldsa65") := by
  have hjob : ∀ j, labSerde.probeJob labDelivery.payload = .ok j →
      j = probe.labJob "X25519MLKEM768" "mldsa65" := by
    intro j hj
    rw [labSerde_probeJob] at hj
    cases hj
    rfl
  have h : _ ∧ (_ ↔ Records labSerde probe.labRegistry probe.labEnv labDelivery
      (probe.labJob "X25519MLKEM768" "mldsa65") probe.labWorld.db) :=
    task_recorded_iff rfl hjob rfl rfl rfl
  refine ⟨h.1, h.2.mpr ?_⟩
  unfold Records
  rw [labSerde_probeJob]
  dsimp only
  unfold probe.Records
  rw [if_neg (by decide)]
  refine ⟨fun hwrite => hwrite rfl, ?_⟩
  rintro (hfails | hfails | hfails)
  all_goals exact absurd rfl hfails

/--
A report that cannot be committed leaves an acknowledged job with its row on `running`.
-/
theorem task_not_recorded_of_commitFails
    : (labDelivery.stream, labDelivery.id)
          ∈ ((task labSerde probe.labRegistry labDelivery).run commitFails.exec probe.labWorld).2.acked
        ∧
      ¬ ((task labSerde probe.labRegistry labDelivery).run commitFails.exec probe.labWorld).2.db.Recorded
        (probe.labJob "X25519MLKEM768" "mldsa65") := by
  rw [run_task labSerde probe.labRegistry commitFails labDelivery probe.labWorld rfl]
  rw [dispatch_probe rfl labSerde_probeJob]
  refine ⟨by simp, ?_⟩
  dsimp only
  rw [probe.handle_recorded_iff rfl rfl]
  unfold probe.Records
  rw [if_neg (by decide)]
  rintro ⟨hwrite, -⟩
  apply hwrite
  change commitFails.saveFailure ≠ none
  decide

end tick

end PqCas
