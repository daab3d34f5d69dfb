import PqCas.Domain.Jobs
import PqCas.Lib.Table

/-!
The tables of `services/api/migrations/0001_init.sql` that the worker writes. Columns that no
statement of the worker or of the API touches after creation are left out.
-/

namespace PqCas

abbrev Time := Nat

structure TestRow where
  id : Uuid
  status : TaskStatus := .pending
  startedAt : Option Time := none
  finishedAt : Option Time := none
  deriving DecidableEq, Repr

structure SubtaskRow where
  id : Uuid
  testId : Uuid
  ordinal : Int
  groupName : String
  sigAlg : String
  execStatus : ExecStatus := .queued
  resultStatus : ResultStatus := .pending
  reportStatus : ReportStatus := .missing
  failedStage : Option String := none
  errorSummary : Option String := none
  startedAt : Option Time := none
  finishedAt : Option Time := none
  deriving DecidableEq, Repr

structure TlsSummary where
  handshakeSuccess : Bool
  tlsVersion : Option String
  cipherSuite : Option String
  keyExchangeGroup : Option String
  certVerifySigAlg : Option String
  alert : Option Alert

structure SubtaskReportRow where
  subtaskId : Uuid
  adapter : String
  tlsSummary : TlsSummary
  messages : List HandshakeMessage
  certChain : List Certificate
  http : Option HttpOutcome
  diagnostics : Json
  raw : ProbeResponse
  evidence : Option String
  durationMs : UInt64

structure KemRunRow where
  id : Uuid
  status : TaskStatus := .pending
  finishedAt : Option Time := none
  deriving DecidableEq, Repr

structure KemRunLogRow where
  runId : Uuid
  seq : Int
  time : Time
  level : String
  message : String
  deriving DecidableEq, Repr

structure KemMatrixCellRow where
  runId : Uuid
  kem : String
  adapter : String
  verdict : ResultStatus
  detail : Option String
  deriving DecidableEq, Repr

structure Db where
  tests : List TestRow := []
  subtasks : List SubtaskRow := []
  subtaskReports : List SubtaskReportRow := []
  kemRuns : List KemRunRow := []
  kemRunLogs : List KemRunLogRow := []
  kemMatrixCells : List KemMatrixCellRow := []

namespace Db

def subtasksOf (db : Db) (testId : Uuid) : List SubtaskRow :=
  db.subtasks.filter (fun row => row.testId = testId)

theorem mem_subtasksOf {db : Db} {testId : Uuid} {row : SubtaskRow}
    : row ∈ db.subtasksOf testId ↔ row ∈ db.subtasks ∧ row.testId = testId := by
  simp [subtasksOf]

def subtask? (db : Db) (id : Uuid) : Option SubtaskRow :=
  db.subtasks.find? (fun row => row.id = id)

def test? (db : Db) (id : Uuid) : Option TestRow :=
  db.tests.find? (fun row => row.id = id)

end Db

end PqCas
