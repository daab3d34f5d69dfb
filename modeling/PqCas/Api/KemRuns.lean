import PqCas.Api.Error
import PqCas.Kem.Redelivery

/-!
Creating a KEM run and reading it back (`routes/kem.rs`).
-/

namespace PqCas

namespace Db

def cellsOf (db : Db) (runId : Uuid) : List KemMatrixCellRow :=
  db.kemMatrixCells.filter (fun cell => cell.runId = runId)

end Db

namespace api

/--
A row of `endpoints`. The database checks that the port is one.
-/
structure Endpoint where
  id : Uuid
  slug : String
  host : String
  port : UInt16
  enabled : Bool
  deriving DecidableEq, Repr

structure NewKemRun where
  mode : KemRunMode
  endpoint : String
  kemGroups : List String := []

structure KemRun extends KemRunRow where
  mode : KemRunMode
  endpointId : Uuid
  kemGroups : List String
  createdAt : Time
  deriving DecidableEq, Repr

/--
What a KEM request reads and changes: the tables, and the stream `jobs:kem` with each payload kept as
the job it encodes.
-/
structure KemState where
  endpoints : List Endpoint
  kemRuns : List KemRun
  kemRunLogs : List KemRunLogRow
  kemMatrixCells : List KemMatrixCellRow
  kemStream : List KemJob

def KemState.db (s : KemState) : Db :=
  {
    kemRuns := s.kemRuns.map KemRun.toKemRunRow
    kemRunLogs := s.kemRunLogs
    kemMatrixCells := s.kemMatrixCells
  }

inductive CreateRunStep where
  | selectEndpoint
  | insertRun
  | enqueue
  deriving DecidableEq, Repr

structure CreateRunEnv where
  now : Time
  runId : Uuid
  fails : CreateRunStep → Option Err := fun _ => none

variable (env : CreateRunEnv) (body : NewKemRun)

def runEndpoint (s : KemState) : Except ApiError Endpoint :=
  match env.fails .selectEndpoint with
  | some err => .error (.database err)
  | none =>
    match s.endpoints.find? (fun row => row.slug = body.endpoint) with
    | none => .error (.notFound "endpoint")
    | some endpoint =>
      if !endpoint.enabled then
        .error (.conflict s!"endpoint {endpoint.slug} is disabled")
      else if body.mode = .groupCompat ∧ body.kemGroups = [] then
        .error (.badRequest "select at least one key_share group")
      else
        .ok endpoint

def runRow (endpoint : Endpoint) : KemRun :=
  {
    id := env.runId
    mode := body.mode
    endpointId := endpoint.id
    kemGroups := body.kemGroups
    createdAt := env.now
  }

def runJob (endpoint : Endpoint) (run : KemRun) : KemJob :=
  {
    runId := run.id
    mode := run.mode
    host := endpoint.host
    port := endpoint.port
    kemGroups := body.kemGroups
  }

def createRun (s : KemState) : Except ApiError KemRun × KemState :=
  match runEndpoint env body s with
  | .error err => (.error err, s)
  | .ok endpoint =>
    let run := runRow env body endpoint
    match env.fails .insertRun with
    | some err => (.error (.database err), s)
    | none =>
      if run.id ∈ s.kemRuns.map (fun row => row.id) then
        (.error (.database "duplicate key value violates unique constraint \"kem_runs_pkey\""), s)
      else
        let s := { s with kemRuns := s.kemRuns ++ [run] }
        match env.fails .enqueue with
        | some err => (.error (.redis err), s)
        | none => (.ok run, { s with kemStream := s.kemStream ++ [runJob body endpoint run] })

/--
The console of a run as `get_run` returns it: the lines by their number, the cells by KEM and adapter.
-/
structure KemRunDetail where
  run : KemRun
  endpoint : Endpoint
  logs : List KemRunLogRow
  cells : List KemMatrixCellRow

def logsInOrder (db : Db) (runId : Uuid) : List KemRunLogRow :=
  (db.linesOf runId).mergeSort (fun a b => a.seq ≤ b.seq)

def cellsInOrder (db : Db) (runId : Uuid) : List KemMatrixCellRow :=
  (db.cellsOf runId).mergeSort (fun a b => a.kem < b.kem ∨ a.kem = b.kem ∧ a.adapter ≤ b.adapter)

def getRun (s : KemState) (id : Uuid) : Except ApiError KemRunDetail :=
  match s.kemRuns.find? (fun row => row.id = id) with
  | none => .error (.notFound "kem run")
  | some run =>
    match s.endpoints.find? (fun row => row.id = run.endpointId) with
    | none => .error .rowNotFound
    | some endpoint => .ok ⟨run, endpoint, logsInOrder s.db id, cellsInOrder s.db id⟩

structure KemState.Lawful (s : KemState) : Prop where
  logs : ∀ line ∈ s.kemRunLogs, line.runId ∈ s.kemRuns.map (fun row => row.id)
  cells : ∀ cell ∈ s.kemMatrixCells, cell.runId ∈ s.kemRuns.map (fun row => row.id)

variable {env body}

theorem createRun_ok {s s' : KemState} {run : KemRun} (hs : s.Lawful)
    (h : createRun env body s = (.ok run, s'))
    : s'.Lawful
        ∧ s'.db.HasRun run.id
        ∧ s'.db.linesOf run.id = []
        ∧ s'.db.cellsOf run.id = []
        ∧ ∃ endpoint ∈ s.endpoints, s'.kemStream = s.kemStream ++ [runJob body endpoint run] := by
  unfold createRun at h
  split at h
  . cases h
  next endpoint hendpoint =>
  dsimp only at h
  split at h
  . cases h
  split at h
  . cases h
  next hfresh =>
  split at h
  . cases h
  cases h
  refine ⟨⟨?_, ?_⟩, ?_, ?_, ?_, endpoint, ?_, rfl⟩
  . intro line hline
    simp [hs.logs line hline]
  . intro cell hcell
    simp [hs.cells cell hcell]
  . simp [Db.HasRun, KemState.db, Function.comp_def]
  . unfold Db.linesOf
    rw [List.filter_eq_nil_iff]
    intro line hline heq
    apply hfresh
    rw [← of_decide_eq_true heq]
    exact hs.logs line hline
  . unfold Db.cellsOf
    rw [List.filter_eq_nil_iff]
    intro cell hcell heq
    apply hfresh
    rw [← of_decide_eq_true heq]
    exact hs.cells cell hcell
  . unfold runEndpoint at hendpoint
    split at hendpoint
    . cases hendpoint
    split at hendpoint
    . cases hendpoint
    next found hfind =>
    have hmem := List.mem_of_find?_eq_some hfind
    split at hendpoint
    . cases hendpoint
    split at hendpoint <;> cases hendpoint
    exact hmem

end api

end PqCas
