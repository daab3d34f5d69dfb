import PqCas.Worker.Tick

/-!
The protocol of a task that handles a probe job: which statement may follow which, and what each of
them commits the task to. The code conforms to it, so that whatever is shown about interleaved phases
holds of interleaved tasks.
-/

namespace PqCas

inductive Phase where
  | received
  /-- `mark_test_running` is done. -/
  | opened
  /-- `mark_subtask_running` is done. -/
  | running
  /-- The subtask row is finished or in error. -/
  | saved
  /-- `SubtaskUpdated` is published. -/
  | announced
  /-- The close-out query found nothing outstanding and returned `c`. -/
  | counted (c : SubtaskCounts)
  /-- The test is closed; `TestFinished` is still to be published. -/
  | closing (c : SubtaskCounts)
  /-- The handler returned, with a result or with an error. -/
  | handled
  | acked
  deriving DecidableEq, Repr

/--
`Next adapters delivery job s op r s'`: in phase `s` the task may perform `op`, and the reply `r`
takes it to `s'`.
-/
inductive Next (adapters : AdapterRegistry) (delivery : Delivery) (job : ProbeJob)
    : Phase → (op : Op) → op.Reply → Phase → Prop where
  | openTest
    : Next adapters delivery job .received (.markTestRunning job.testId) (Except.ok ()) .opened
  | openTestFails (e : Err)
    : Next adapters delivery job .received (.markTestRunning job.testId) (Except.error e) .handled
  | startSubtask
    : Next adapters delivery job .opened (.markSubtaskRunning job.subtaskId) (Except.ok ()) .running
  | startSubtaskFails (e : Err)
    : Next adapters delivery job .opened (.markSubtaskRunning job.subtaskId) (Except.error e) .handled
  | call {op : Op} {r : op.Reply} (hop : op.isCall = true)
    : Next adapters delivery job .running op r .running
  | save {result : ResultStatus} {response : ProbeResponse}
      (hconf : adapters.isConfigured job.adapter = true)
      (hresult : result ∈ [ResultStatus.passed, .failed, .unsupported])
    : Next adapters delivery job .running (.saveReport job.subtaskId result response)
        (Except.ok ()) .saved
  | saveFails {result : ResultStatus} {response : ProbeResponse} (e : Err)
    : Next adapters delivery job .running (.saveReport job.subtaskId result response)
        (Except.error e) .handled
  | failSubtask {reason : String} (hconf : adapters.isConfigured job.adapter = false)
    : Next adapters delivery job .running (.markSubtaskError job.subtaskId reason)
        (Except.ok ()) .saved
  | failSubtaskFails {reason : String} (e : Err)
    : Next adapters delivery job .running (.markSubtaskError job.subtaskId reason)
        (Except.error e) .handled
  | announce {execStatus : ExecStatus} {resultStatus : ResultStatus}
    : Next adapters delivery job .saved
        (.publish (.test job.testId) (probe.subtaskUpdated job execStatus resultStatus))
        (Except.ok ()) .announced
  | announceFails {execStatus : ExecStatus} {resultStatus : ResultStatus} (e : Err)
    : Next adapters delivery job .saved
        (.publish (.test job.testId) (probe.subtaskUpdated job execStatus resultStatus))
        (Except.error e) .handled
  | countSome {c : SubtaskCounts} (hc : 0 < c.outstanding)
    : Next adapters delivery job .announced (.countSubtasks job.testId) (Except.ok c) .handled
  | countNone {c : SubtaskCounts} (hc : c.outstanding = 0)
    : Next adapters delivery job .announced (.countSubtasks job.testId) (Except.ok c) (.counted c)
  | countFails (e : Err)
    : Next adapters delivery job .announced (.countSubtasks job.testId) (Except.error e) .handled
  | close {c : SubtaskCounts}
    : Next adapters delivery job (.counted c) (.closeTest job.testId c.closeOutStatus)
        (Except.ok ()) (.closing c)
  | closeFails {c : SubtaskCounts} (e : Err)
    : Next adapters delivery job (.counted c) (.closeTest job.testId c.closeOutStatus)
        (Except.error e) .handled
  | finish {c : SubtaskCounts} {r : Except Err Unit}
    : Next adapters delivery job (.closing c)
        (.publish (.test job.testId) (probe.testFinished job ⟨c.passed, c.failed⟩)) r .handled
  | ack {r : Except Err Unit}
    : Next adapters delivery job .handled (.ack delivery.stream delivery.id) r .acked

namespace probe

variable (adapters : AdapterRegistry) (delivery : Delivery) (job : ProbeJob)

def Returned {α : Type} (_ : α) (s : Phase) : Prop :=
  s = .handled

theorem finish_conforms
    : WorkerM.Conforms (Next adapters delivery job) Returned (Returned ()) (finish job) .announced := by
  apply WorkerM.Conforms.bind
  apply WorkerM.Conforms.bind
  apply store.countSubtasks_conforms
  . intro c
    by_cases hc : 0 < c.outstanding
    . refine ⟨_, .countSome hc, ?_⟩
      rw [if_pos hc]
      rfl
    . refine ⟨_, .countNone (by omega), ?_⟩
      rw [if_neg hc]
      apply WorkerM.Conforms.bind
      refine fun (r : Except Err Unit) => ?_
      cases r with
      | error e => exact ⟨_, .closeFails e, rfl⟩
      | ok _ =>
        refine ⟨_, .close, ?_⟩
        refine fun (r : Except Err Unit) => ⟨_, .finish, ?_⟩
        cases r <;> rfl
  . exact fun e => ⟨_, .countFails e, rfl⟩

theorem announce_conforms (execStatus : ExecStatus) (resultStatus : ResultStatus)
    : WorkerM.Conforms (Next adapters delivery job) Returned (Returned ())
        (publish job execStatus resultStatus >>= fun _ => finish job) .saved := by
  apply WorkerM.Conforms.bind
  refine fun (r : Except Err Unit) => ?_
  cases r with
  | error e => exact ⟨_, .announceFails e, rfl⟩
  | ok _ => exact ⟨_, .announce, finish_conforms adapters delivery job⟩

theorem handle_conforms
    : WorkerM.Conforms (Next adapters delivery job) Returned (Returned ()) (handle adapters job)
        .received := by
  apply WorkerM.Conforms.bind
  refine fun (r : Except Err Unit) => ?_
  cases r with
  | error e => exact ⟨_, .openTestFails e, rfl⟩
  | ok _ =>
    refine ⟨_, .openTest, ?_⟩
    apply WorkerM.Conforms.bind
    refine fun (r : Except Err Unit) => ?_
    cases r with
    | error e => exact ⟨_, .startSubtaskFails e, rfl⟩
    | ok _ =>
      refine ⟨_, .startSubtask, ?_⟩
      change WorkerM.Conforms _ _ _ (if (!adapters.isConfigured job.adapter) = true then _ else _) _
      cases hconf : adapters.isConfigured job.adapter with
      | false =>
        apply WorkerM.Conforms.bind
        refine fun (r : Except Err Unit) => ?_
        cases r with
        | error e => exact ⟨_, .failSubtaskFails e, rfl⟩
        | ok _ =>
          refine ⟨_, .failSubtask hconf, ?_⟩
          exact announce_conforms adapters delivery job .error .disabled
      | true =>
        apply WorkerM.Conforms.bind
        apply WorkerM.Conforms.lift
        apply Prog.Conforms.mono (adapters.probe_conforms _ _ (fun hop => .call hop))
        rintro response s rfl
        apply WorkerM.Conforms.bind
        apply WorkerM.Conforms.lift
        apply Prog.Conforms.mono (adapters.capabilities_conforms _ (fun hop => .call hop))
        rintro outcome s rfl
        apply WorkerM.Conforms.bind
        refine fun (r : Except Err Unit) => ?_
        cases r with
        | error e => exact ⟨_, .saveFails e, rfl⟩
        | ok _ =>
          refine ⟨_, .save hconf (verdict_mem job response outcome), ?_⟩
          exact announce_conforms adapters delivery job .finished (verdict job response outcome)

end probe

structure ProbeEntry (serde : Serde) where
  delivery : Delivery
  job : ProbeJob
  stream_eq : delivery.stream = STREAM_PROBE
  decode_eq : serde.probeJob delivery.payload = .ok job

theorem ProbeEntry.task_eq {serde : Serde} (adapters : AdapterRegistry) (entry : ProbeEntry serde)
    : tick.task serde adapters entry.delivery
        =
      (probe.handle adapters entry.job).run >>= fun _ =>
        .op (.ack entry.delivery.stream entry.delivery.id) (fun _ => .pure ()) := by
  unfold tick.task tick.dispatch
  rw [if_pos entry.stream_eq, entry.decode_eq]
  rfl

theorem tick.task_conforms {serde : Serde} (adapters : AdapterRegistry) (entry : ProbeEntry serde)
    : (tick.task serde adapters entry.delivery).Conforms (Next adapters entry.delivery entry.job)
        (fun _ s => s = .acked) .received := by
  rw [entry.task_eq]
  apply Prog.Conforms.bind
  apply Prog.Conforms.mono (probe.handle_conforms adapters entry.delivery entry.job)
  intro r s hr
  have hs : s = .handled := by cases r <;> exact hr
  subst hs
  exact fun _ => ⟨_, .ack, rfl⟩

end PqCas
