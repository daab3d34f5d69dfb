import PqCas.Worker.Adapters

/-!
Handling of one PQ-CAS subtask: probe, classify, persist, publish (`probe.rs`).
-/

namespace PqCas

/--
Serialise an event and publish it. Both steps can fail, and neither has an effect when it does.
-/
def publishEvent (channel : Channel) (event : Event) : WorkerM Unit :=
  .attempt (.perform (Op.publish channel event))

theorem eval_publishEvent (env : Env) (w : World) (channel : Channel) (event : Event)
    : (publishEvent channel event).eval env w
        =
      match env.fails event.publishStep with
      | some e => (.error e, w)
      | none => (.ok (), { w with published := w.published ++ [(channel, event)] })
    := rfl

namespace probe

def subtaskUpdated (job : ProbeJob) (execStatus : ExecStatus) (resultStatus : ResultStatus) : Event :=
  .subtaskUpdated job.subtaskId execStatus resultStatus job.groupName job.sigAlg

def publish (job : ProbeJob) (execStatus : ExecStatus) (resultStatus : ResultStatus)
    : WorkerM Unit :=
  publishEvent (.test job.testId) (subtaskUpdated job execStatus resultStatus)

@[simp]
theorem eval_publish (env : Env) (w : World) (job : ProbeJob) (execStatus : ExecStatus)
    (resultStatus : ResultStatus)
    : (publish job execStatus resultStatus).eval env w
        =
      match env.fails .publishSubtaskUpdated with
      | some e => (.error e, w)
      | none => (.ok (), { w with
          published := w.published ++ [(.test job.testId, subtaskUpdated job execStatus resultStatus)] })
    := rfl

/--
The event a closed test is announced with. The counts are cast to `u32`.
-/
def testFinished (job : ProbeJob) (progress : store.TestProgress) : Event :=
  .testFinished job.testId (.ofNat progress.passed) (.ofNat progress.failed)

def finish (job : ProbeJob) : WorkerM Unit := do
  match ← store.finishTestIfDone job.testId with
  | none => return ()
  | some progress => publishEvent (.test job.testId) (testFinished job progress)

def requestFor (job : ProbeJob) : ProbeRequest :=
  { ProbeRequest.new {
      host := job.host
      port := job.port
      sni := some job.host
      httpPath := some job.httpPath
    } with
    kemGroups := [job.groupName]
    sigAlgs := [job.sigAlg]
    timeoutMs := job.timeoutMs
    capture := {
      rawRecords := true
      keylog := false
    }
  }

def disabledReason (job : ProbeJob) : String :=
  s!"adapter {job.adapter} is not enabled in this deployment"

def verdict (job : ProbeJob) (response : ProbeResponse) (outcome : Except Err Capabilities)
    : ResultStatus :=
  match outcome with
  | .ok capabilities => classify response [job.groupName, job.sigAlg] capabilities
  | .error _ =>
    -- Capabilities unavailable, fall back to the raw outcome.
    if response.handshakeSuccess then
      .passed
    else
      .failed

def handle (adapters : AdapterRegistry) (job : ProbeJob) : WorkerM Unit := do
  store.markTestRunning job.testId
  store.markSubtaskRunning job.subtaskId
  if !adapters.isConfigured job.adapter then
    -- The lab has not built this stack.
    store.markSubtaskError job.subtaskId (disabledReason job)
    publish job .error .disabled
    finish job
  else
    let response ← ExceptT.lift (adapters.probe job.adapter (requestFor job))
    let outcome ← ExceptT.lift (adapters.capabilities job.adapter).run
    let result := verdict job response outcome
    store.saveReport job.subtaskId result response
    publish job .finished result
    finish job

theorem verdict_mem (job : ProbeJob) (response : ProbeResponse) (outcome : Except Err Capabilities)
    : verdict job response outcome ∈ [ResultStatus.passed, .failed, .unsupported] := by
  unfold verdict
  split
  . apply classify_mem
  . split <;> simp

section Alone

variable (adapters : AdapterRegistry) (env : Env) (w : World) (job : ProbeJob)

def response : ProbeResponse :=
  adapters.probeOutcome env w job.adapter (requestFor job)

def outcome : Except Err Capabilities :=
  adapters.capabilitiesOutcome env { w with calls := w.calls + 1 } job.adapter

def result : ResultStatus :=
  verdict job (response adapters env w job) (outcome adapters env w job)

def terminalWrite (db : Db) : Except Err Db :=
  if adapters.isConfigured job.adapter then
    match env.saveFailure with
    | some e => .error e
    | none =>
      db.saveReport env.now job.subtaskId (result adapters env w job) (response adapters env w job)
  else
    match env.fails .markSubtaskError with
    | some e => .error e
    | none => .ok (db.markSubtaskError env.now job.subtaskId (disabledReason job))

def finishDb (db : Db) : Db :=
  let counts := db.countSubtasks job.testId
  if env.fails .countSubtasks = none
      ∧ counts.outstanding = 0
      ∧ env.fails .closeTest = none then
    db.closeTest env.now job.testId counts.closeOutStatus
  else
    db

theorem eval_finish_db : ((finish job).eval env w).2.db = finishDb env job w.db := by
  unfold finish store.finishTestIfDone finishDb
  simp only [WorkerM.eval_bind, store.eval_countSubtasks]
  cases hcount : env.fails .countSubtasks with
  | some e => simp
  | none =>
    by_cases hout : (w.db.countSubtasks job.testId).outstanding = 0
    . cases hclose : env.fails .closeTest with
      | some e => simp [hout, hclose, WorkerM.eval_bind, Env.statement]
      | none =>
        simp only [hout, Nat.lt_irrefl, ↓reduceIte, WorkerM.eval_bind, store.eval_closeTest, hclose,
          Env.statement, WorkerM.eval_pure, eval_publishEvent, and_self]
        split <;> rfl
    . have hpos : 0 < (w.db.countSubtasks job.testId).outstanding := by omega
      simp [hout, hpos]

theorem eval_handle_db
    : ((handle adapters job).eval env w).2.db
        =
      match env.fails .markTestRunning with
      | some _ => w.db
      | none =>
        let db := w.db.markTestRunning env.now job.testId
        match env.fails .markSubtaskRunning with
        | some _ => db
        | none =>
          let db := db.markSubtaskRunning env.now job.subtaskId
          match terminalWrite adapters env w job db with
          | .error _ => db
          | .ok db =>
            match env.fails .publishSubtaskUpdated with
            | some _ => db
            | none => finishDb env job db := by
  unfold handle
  simp only [WorkerM.eval_bind, store.eval_markTestRunning, store.eval_markSubtaskRunning]
  cases env.fails .markTestRunning with
  | some e => rfl
  | none =>
    cases env.fails .markSubtaskRunning with
    | some e => rfl
    | none =>
      simp only [Env.statement]
      cases hconf : adapters.isConfigured job.adapter with
      | false =>
        simp only [Bool.not_false, ↓reduceIte, Bool.false_eq_true, WorkerM.eval_bind, terminalWrite,
          hconf, store.eval_markSubtaskError, eval_publish]
        cases env.fails .markSubtaskError with
        | some e => rfl
        | none =>
          simp only [Env.statement]
          cases env.fails .publishSubtaskUpdated with
          | some e => rfl
          | none => apply eval_finish_db
      | true =>
        simp only [Bool.not_true, Bool.false_eq_true, ↓reduceIte, WorkerM.eval_bind, WorkerM.eval_lift,
          adapters.run_probe _ _ _ _ hconf, terminalWrite, hconf, store.eval_saveReport, eval_publish]
        -- The two statements before the calls change neither the cache nor the number of calls.
        let w' : World := { w with
          db := (w.db.markTestRunning env.now job.testId).markSubtaskRunning env.now job.subtaskId }
        obtain ⟨cache, calls, hcaps⟩ :=
          adapters.eval_capabilities env { w' with calls := w'.calls + 1 } job.adapter
        have hresponse : adapters.probeOutcome env w' job.adapter (requestFor job)
            = response adapters env w job := rfl
        have hresult : verdict job (response adapters env w job)
            (adapters.capabilitiesOutcome env { w' with calls := w'.calls + 1 } job.adapter)
            = result adapters env w job := rfl
        unfold WorkerM.eval at hcaps
        rw [hcaps, hresponse, hresult]
        cases env.saveFailure with
        | some e => rfl
        | none =>
          dsimp only [Env.statement, w']
          cases Db.saveReport _ env.now job.subtaskId (result adapters env w job)
              (response adapters env w job) with
          | error e => rfl
          | ok db =>
            cases env.fails .publishSubtaskUpdated with
            | some e => rfl
            | none => apply eval_finish_db

end Alone

end probe

end PqCas
