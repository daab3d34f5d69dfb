import PqCas.Worker.Verdict

/-!
The statuses an event of the probe handler announces, compared with the ones on the subtask row at the
moment it is published.
-/

namespace PqCas

def MatchesRow (op : Op) (w : World) : Prop :=
  match op with
  | .publish _ (.subtaskUpdated subtaskId execStatus resultStatus _ _) =>
    ∃ row, w.db.subtask? subtaskId = some row
      ∧ row.execStatus = execStatus
      ∧ row.resultStatus = resultStatus
  | _ => True

namespace WorkerM

variable {α β : Type} {env : Env} {P : Op → World → Prop}

def Performs (env : Env) (P : Op → World → Prop) (m : WorkerM α) (w : World) : Prop :=
  Prog.Performs env.exec P m.run w

theorem performs_bind {m : WorkerM α} {f : α → WorkerM β} {w : World}
    : (m >>= f).Performs env P w
        ↔
      m.Performs env P w
        ∧ ∀ a, (m.eval env w).1 = .ok a → (f a).Performs env P (m.eval env w).2 := by
  unfold Performs
  have hrun : (m >>= f).run = m.run >>= ExceptT.bindCont f := rfl
  rw [hrun, Prog.performs_bind]
  apply and_congr_right
  intro _
  unfold eval
  rcases m.run.run env.exec w with ⟨r, w'⟩
  cases r with
  | error e => simp [ExceptT.bindCont, Prog.Performs]
  | ok a =>
    simp only [Except.ok.injEq]
    constructor
    . rintro h _ rfl
      exact h
    . exact fun h => h a rfl

@[simp]
theorem performs_pure (a : α) (w : World) : (pure a : WorkerM α).Performs env P w := trivial

end WorkerM

namespace probe

variable (adapters : AdapterRegistry) (env : Env) (w : World) (job : ProbeJob)

def AnnouncesRow : Prop :=
  (handle adapters job).Performs env MatchesRow w

variable {adapters env w job}

theorem performs_publish {execStatus : ExecStatus} {resultStatus : ResultStatus}
    : (publish job execStatus resultStatus).Performs env MatchesRow w
        ↔
      ∃ row, w.db.subtask? job.subtaskId = some row
        ∧ row.execStatus = execStatus
        ∧ row.resultStatus = resultStatus :=
  and_iff_left trivial

theorem performs_finish : (finish job).Performs env MatchesRow w := by
  unfold finish
  rw [WorkerM.performs_bind]
  constructor
  . unfold store.finishTestIfDone
    rw [WorkerM.performs_bind]
    refine ⟨⟨trivial, trivial⟩, ?_⟩
    intro counts _
    split
    . trivial
    . rw [WorkerM.performs_bind]
      exact ⟨⟨trivial, trivial⟩, fun _ _ => trivial⟩
  . intro progress _
    cases progress with
    | none => trivial
    | some progress => exact ⟨trivial, trivial⟩

theorem performs_calls {α : Type} {m : WorkerM α}
    (h : m.run.Conforms (fun () op _ () => op.isCall = true) (fun _ _ => True) ())
    : m.Performs env MatchesRow w := by
  apply Prog.Conforms.performs h
  intro _ op _ _ w hop
  cases op with
  | publish => cases hop
  | _ => trivial

theorem performs_disabled {row : SubtaskRow} (hrow : w.db.subtask? job.subtaskId = some row)
    : (store.markSubtaskError job.subtaskId (disabledReason job) >>= fun _ =>
        publish job .error .disabled >>= fun _ => finish job).Performs env MatchesRow w
        ↔
      env.fails .markSubtaskError ≠ none := by
  rw [WorkerM.performs_bind, and_iff_right (show _ from ⟨trivial, trivial⟩), store.eval_markSubtaskError]
  cases env.fails .markSubtaskError with
  | some e => simp [Env.statement]
  | none =>
    simp only [Env.statement, forall_const, ne_eq, not_true_eq_false, iff_false]
    rw [WorkerM.performs_bind, performs_publish]
    rintro ⟨⟨row', hrow', -, hresult⟩, -⟩
    rw [Db.subtask?_markSubtaskError, hrow] at hrow'
    cases hrow'
    cases hresult

theorem performs_saved {row : SubtaskRow} (hrow : w.db.subtask? job.subtaskId = some row)
    (result : ResultStatus) (response : ProbeResponse)
    : (store.saveReport job.subtaskId result response >>= fun _ =>
        publish job .finished result >>= fun _ => finish job).Performs env MatchesRow w := by
  rw [WorkerM.performs_bind, store.eval_saveReport]
  refine ⟨⟨trivial, trivial⟩, ?_⟩
  obtain ⟨db, hsave, -, -, hsub⟩ := Db.saveReport_of_subtask? env.now hrow result response
  cases env.saveFailure with
  | some e => simp [Env.statement]
  | none =>
    intro _ _
    rw [hsave]
    simp only [Env.statement]
    rw [WorkerM.performs_bind, performs_publish]
    exact ⟨⟨_, hsub, rfl, rfl⟩, fun _ _ => performs_finish⟩

/--
Every registry, every job and every reply of the adapters: the published update agrees with the row
exactly when the adapter of the job is configured, or a statement fails before there is anything to
publish.
-/
theorem announcesRow_iff {row : SubtaskRow} (hrow : w.db.subtask? job.subtaskId = some row)
    : AnnouncesRow adapters env w job
        ↔
      adapters.isConfigured job.adapter = true
        ∨ env.fails .markTestRunning ≠ none
        ∨ env.fails .markSubtaskRunning ≠ none
        ∨ env.fails .markSubtaskError ≠ none := by
  unfold AnnouncesRow handle
  rw [WorkerM.performs_bind, and_iff_right (show _ from ⟨trivial, trivial⟩), store.eval_markTestRunning]
  cases env.fails .markTestRunning with
  | some e => simp [Env.statement]
  | none =>
    simp only [Env.statement, forall_const]
    rw [WorkerM.performs_bind, and_iff_right (show _ from ⟨trivial, trivial⟩),
      store.eval_markSubtaskRunning]
    cases env.fails .markSubtaskRunning with
    | some e => simp [Env.statement]
    | none =>
      simp only [Env.statement, forall_const]
      -- Both rows are marked as running; the job's row is still there.
      generalize hw : (World.mk _ _ _ _ _) = w'
      have hrow' : w'.db.subtask? job.subtaskId = some (row.start env.now) := by
        rw [← hw, Db.subtask?_markSubtaskRunning, Db.subtask?_markTestRunning, hrow]
        rfl
      cases hconf : adapters.isConfigured job.adapter with
      | false => simpa using performs_disabled hrow'
      | true =>
        simp only [Bool.not_true, Bool.false_eq_true, ↓reduceIte, true_or, iff_true]
        rw [WorkerM.performs_bind]
        constructor
        . apply performs_calls
          apply Prog.Conforms.bind
          apply Prog.Conforms.mono (adapters.probe_conforms _ _ (fun hop => hop))
          exact fun _ _ _ => trivial
        . intro response _
          rw [WorkerM.eval_lift, adapters.run_probe _ _ _ _ hconf, WorkerM.performs_bind]
          constructor
          . apply performs_calls
            apply Prog.Conforms.bind
            apply Prog.Conforms.mono (adapters.capabilities_conforms _ (fun hop => hop))
            exact fun _ _ _ => trivial
          . intro outcome _
            obtain ⟨cache, calls, hcaps⟩ :=
              adapters.eval_capabilities env { w' with calls := w'.calls + 1 } job.adapter
            unfold WorkerM.eval at hcaps
            rw [WorkerM.eval_lift, hcaps]
            apply performs_saved
            exact hrow'

theorem announcesRow_lab
    : AnnouncesRow labRegistry labEnv labWorld (labJob "X25519MLKEM768" "mldsa65") :=
  (announcesRow_iff rfl).mpr (.inl rfl)

/--
A job for a stack the lab has not built is announced as `disabled` while its row says `failed`.
-/
theorem not_announcesRow_disabled
    : ¬ AnnouncesRow labRegistry labEnv labWorld
        { labJob "X25519MLKEM768" "mldsa65" with adapter := "wolfssl" } := by
  rintro ⟨-, -, -, ⟨row, hrow, -, hresult⟩, -⟩
  cases hrow
  cases hresult

end probe

end PqCas
