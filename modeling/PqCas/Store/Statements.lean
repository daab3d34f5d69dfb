import PqCas.Domain.Contract
import PqCas.Store.Tables

/-!
All database writes the worker performs (`store.rs` and the statements of `kem.rs`), as functions on
the tables. A statement that Postgres can refuse because of a key returns an `Except`.
-/

namespace PqCas

namespace TestRow

def start (now : Time) (row : TestRow) : TestRow :=
  { row with status := .running, startedAt := row.startedAt.or (some now) }

def close (now : Time) (status : TaskStatus) (row : TestRow) : TestRow :=
  { row with status := status, finishedAt := some now }

end TestRow

namespace SubtaskRow

def key (row : SubtaskRow) : Uuid × Uuid × Int × String × String :=
  (row.id, row.testId, row.ordinal, row.groupName, row.sigAlg)

def start (now : Time) (row : SubtaskRow) : SubtaskRow :=
  { row with execStatus := .running, startedAt := some now }

def reportStatusOf (response : ProbeResponse) : ReportStatus :=
  if response.handshakeSuccess then
    .complete
  else if response.messages.isEmpty then
    .partial_
  else
    .complete

def finish (now : Time) (result : ResultStatus) (response : ProbeResponse) (row : SubtaskRow)
    : SubtaskRow :=
  { row with
    execStatus := .finished
    resultStatus := result
    reportStatus := reportStatusOf response
    failedStage := some response.failedStage.asStr
    errorSummary := response.errorSummary
    finishedAt := some now }

def fail (now : Time) (reason : String) (row : SubtaskRow) : SubtaskRow :=
  { row with
    execStatus := .error
    resultStatus := .failed
    reportStatus := .missing
    errorSummary := some reason
    finishedAt := some now }

end SubtaskRow

namespace Db

def markSubtaskRunning (db : Db) (now : Time) (subtaskId : Uuid) : Db :=
  { db with
    subtasks := Table.updateWhere db.subtasks (fun row => row.id = subtaskId) (.start now) }

def markTestRunning (db : Db) (now : Time) (testId : Uuid) : Db :=
  { db with
    tests := Table.updateWhere db.tests (fun row => row.id = testId && row.status == .pending)
      (.start now) }

def reportRow (subtaskId : Uuid) (response : ProbeResponse) : SubtaskReportRow :=
  {
    subtaskId := subtaskId
    adapter := response.adapter
    tlsSummary := {
      handshakeSuccess := response.handshakeSuccess
      tlsVersion := response.negotiated.tlsVersion
      cipherSuite := response.negotiated.cipherSuite
      keyExchangeGroup := response.negotiated.group
      certVerifySigAlg := response.negotiated.certVerifySigAlg
      alert := response.alert
    }
    messages := response.messages
    certChain := response.certChain
    http := response.http
    diagnostics := response.diagnostics
    raw := response
    evidence := response.evidence.udsDumpB64
    durationMs := response.durationMs
  }

/--
What Postgres says to a report with the code point 0 in one of its texts: no `text` or `jsonb` column takes it. Every
text of the row is also one of `raw`.
-/
def refusal (response : ProbeResponse) : Option Err :=
  if response.toJson.hasNul then
    some "unsupported Unicode escape sequence"
  else
    none

/--
The transaction of `save_report`: upsert the report, then finish the subtask. The report refers to
its subtask by a foreign key. A `refusal` of the report is one of the failures of its `INSERT`.
-/
def saveReport (db : Db) (now : Time) (subtaskId : Uuid) (result : ResultStatus)
    (response : ProbeResponse) : Except Err Db :=
  if db.subtasks.any (fun row => row.id = subtaskId) then
    .ok { db with
      subtaskReports :=
        Table.upsert SubtaskReportRow.subtaskId db.subtaskReports (reportRow subtaskId response)
      subtasks := Table.updateWhere db.subtasks (fun row => row.id = subtaskId)
        (.finish now result response) }
  else
    .error "violates foreign key constraint \"subtask_reports_subtask_id_fkey\""

def markSubtaskError (db : Db) (now : Time) (subtaskId : Uuid) (reason : String) : Db :=
  { db with
    subtasks := Table.updateWhere db.subtasks (fun row => row.id = subtaskId) (.fail now reason) }

end Db

structure SubtaskCounts where
  outstanding : Nat
  passed : Nat
  failed : Nat
  errored : Nat
  total : Nat
  deriving DecidableEq, Repr

namespace SubtaskCounts

def ofRows (rows : List SubtaskRow) : SubtaskCounts :=
  {
    outstanding := rows.countP (fun row => row.execStatus.outstanding)
    passed := rows.countP (fun row => row.resultStatus == .passed)
    failed := rows.countP
      (fun row => row.resultStatus == .failed || row.resultStatus == .unsupported)
    errored := rows.countP (fun row => row.execStatus == .error)
    total := rows.length
  }

theorem passed_add_failed {rows : List SubtaskRow}
    (h : ∀ row ∈ rows, row.resultStatus ∈ [ResultStatus.passed, .failed, .unsupported])
    : (SubtaskCounts.ofRows rows).passed + (SubtaskCounts.ofRows rows).failed = rows.length := by
  rw [List.length_eq_countP_add_countP (fun row => row.resultStatus == .passed)]
  unfold SubtaskCounts.ofRows
  congr 1
  apply List.countP_congr
  intro row hrow
  have hresult := h row hrow
  simp only [List.mem_cons, List.not_mem_nil, or_false] at hresult
  rcases hresult with hresult | hresult | hresult <;> simp [hresult]

/--
Only a task where every subtask errored out on our side is a failed task.
-/
def closeOutStatus (c : SubtaskCounts) : TaskStatus :=
  if c.errored = c.total ∧ 0 < c.total then
    .failed
  else
    .finished

end SubtaskCounts

namespace Db

def countSubtasks (db : Db) (testId : Uuid) : SubtaskCounts :=
  .ofRows (db.subtasksOf testId)

def closeTest (db : Db) (now : Time) (testId : Uuid) (status : TaskStatus) : Db :=
  { db with
    tests := Table.updateWhere db.tests (fun row => row.id = testId) (.close now status) }

def startKemRun (db : Db) (runId : Uuid) : Db :=
  { db with
    kemRuns := Table.updateWhere db.kemRuns (fun row => row.id = runId)
      (fun row => { row with status := .running }) }

/--
The insert of one console line. Both the foreign key on the run and the primary key
`(run_id, seq)` can refuse it.
-/
def insertKemLog (db : Db) (line : KemRunLogRow) : Except Err Db :=
  if !db.kemRuns.any (fun row => row.id = line.runId) then
    .error "violates foreign key constraint \"kem_run_logs_run_id_fkey\""
  else if db.kemRunLogs.any (fun row => row.runId = line.runId ∧ row.seq = line.seq) then
    .error "duplicate key value violates unique constraint \"kem_run_logs_pkey\""
  else
    .ok { db with kemRunLogs := db.kemRunLogs ++ [line] }

def upsertKemCell (db : Db) (cell : KemMatrixCellRow) : Except Err Db :=
  if !db.kemRuns.any (fun row => row.id = cell.runId) then
    .error "violates foreign key constraint \"kem_matrix_cells_run_id_fkey\""
  else
    .ok { db with
      kemMatrixCells :=
        Table.upsert (fun row => (row.runId, row.kem, row.adapter)) db.kemMatrixCells cell }

def finishKemRun (db : Db) (now : Time) (runId : Uuid) (status : TaskStatus) : Db :=
  { db with
    kemRuns := Table.updateWhere db.kemRuns (fun row => row.id = runId)
      (fun row => { row with status := status, finishedAt := some now }) }

variable (db : Db) (now : Time) (id : Uuid)

theorem subtask?_markSubtaskRunning
    : (db.markSubtaskRunning now id).subtask? id = (db.subtask? id).map (.start now) :=
  Table.find?_updateWhere (fun _ => rfl)

theorem subtask?_markSubtaskError (reason : String)
    : (db.markSubtaskError now id reason).subtask? id = (db.subtask? id).map (.fail now reason) :=
  Table.find?_updateWhere (fun _ => rfl)

theorem test?_markTestRunning (testId : Uuid)
    : (db.markTestRunning now testId).test? id
        =
      (db.test? id).map
        (fun row => if row.id = testId && row.status == .pending then row.start now else row) := by
  unfold test? markTestRunning
  apply Table.find?_updateWhere_key
  intro row
  rfl

theorem test?_closeTest (testId : Uuid) (status : TaskStatus)
    : (db.closeTest now testId status).test? testId = (db.test? testId).map (.close now status) :=
  Table.find?_updateWhere (fun _ => rfl)

theorem test?_closeTest_of_ne {testId : Uuid} (h : id ≠ testId) (status : TaskStatus)
    : (db.closeTest now testId status).test? id = db.test? id := by
  have hkey : ∀ row : TestRow, (row.close now status).id = row.id := fun _ => rfl
  unfold closeTest test?
  dsimp only
  rw [Table.find?_updateWhere_key hkey]
  cases hrow : db.tests.find? (fun row => row.id = id) with
  | none => rfl
  | some row =>
    have hid : row.id = id := by simpa using List.find?_some hrow
    simp [hid, h]

theorem test?_markTestRunning_of_closed {test : TestRow} (h : test.status.closed = true)
    (testId : Uuid)
    : (db.markTestRunning now testId).test? id = some test ↔ db.test? id = some test := by
  rw [test?_markTestRunning]
  cases db.test? id with
  | none => simp
  | some row =>
    simp only [Option.map_some, Option.some.injEq]
    split
    . next hpending =>
      simp only [Bool.and_eq_true, beq_iff_eq] at hpending
      constructor
      . rintro rfl
        cases h
      . rintro rfl
        rw [hpending.2] at h
        cases h
    . rfl

@[simp]
theorem subtask?_markTestRunning (testId : Uuid)
    : (db.markTestRunning now testId).subtask? id = db.subtask? id := rfl

@[simp]
theorem subtask?_closeTest (testId : Uuid) (status : TaskStatus)
    : (db.closeTest now testId status).subtask? id = db.subtask? id := rfl

variable {db id}

theorem saveReport_of_subtask? {row : SubtaskRow} (h : db.subtask? id = some row)
    (result : ResultStatus) (response : ProbeResponse)
    : ∃ db',
        db.saveReport now id result response = .ok db'
          ∧ db'.tests = db.tests
          ∧ db'.subtasks
              =
            Table.updateWhere db.subtasks (fun row => row.id = id) (.finish now result response)
          ∧ db'.subtask? id = some (row.finish now result response) := by
  have hany : db.subtasks.any (fun row => row.id = id) = true := by
    rw [List.any_eq_true]
    unfold subtask? at h
    refine ⟨row, List.mem_of_find?_eq_some h, ?_⟩
    simpa using List.find?_some h
  refine ⟨_, if_pos hany, rfl, rfl, ?_⟩
  have hfind : (Table.updateWhere db.subtasks (fun row => row.id = id)
      (.finish now result response)).find? (fun row => row.id = id)
      = (db.subtask? id).map (.finish now result response) :=
    Table.find?_updateWhere (fun _ => rfl)
  rw [h] at hfind
  exact hfind

theorem of_saveReport {db' : Db} {now : Time} {id : Uuid} {result : ResultStatus} {response : ProbeResponse}
    (h : db.saveReport now id result response = .ok db')
    : db'.tests = db.tests
      ∧ db'.subtasks
          =
        Table.updateWhere db.subtasks (fun row => row.id = id) (.finish now result response)
      ∧ db'.subtaskReports
          =
        Table.upsert SubtaskReportRow.subtaskId db.subtaskReports (reportRow id response) := by
  unfold saveReport at h
  split at h
  . cases h
    exact ⟨rfl, rfl, rfl⟩
  . cases h

end Db

end PqCas
