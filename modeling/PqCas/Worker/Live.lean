import PqCas.Worker.System

/-!
The row of a subtask and the update that is announced for it, in runs that hand out each job once. An
update that was published says what the row says from then on.
-/

namespace PqCas

def Op.isQuiet (op : Op) : Bool :=
  match op with
  | .markTestRunning .. | .countSubtasks .. | .closeTest .. | .ack .. => true
  | .publish _ (.testFinished ..) => true
  | .postProbe .. | .cachedCapabilities .. | .fetchCapabilities .. | .cacheCapabilities .. => true
  | _ => false

inductive Live where
  | early
  /-- `mark_subtask_running` is done. -/
  | running
  /-- The row has its final statuses, and the task will announce these. -/
  | saved (execStatus : ExecStatus) (resultStatus : ResultStatus)
  /-- The update is published, or a step failed and there will be none. -/
  | settled
  deriving DecidableEq, Repr

inductive LiveNext (adapters : AdapterRegistry) (job : ProbeJob)
    : Live → (op : Op) → op.Reply → Live → Prop where
  | quiet {s : Live} {op : Op} {r : op.Reply} (hop : op.isQuiet = true)
    : LiveNext adapters job s op r s
  | start
    : LiveNext adapters job .early (.markSubtaskRunning job.subtaskId) (Except.ok ()) .running
  | startFails (e : Err)
    : LiveNext adapters job .early (.markSubtaskRunning job.subtaskId) (Except.error e) .settled
  | save {result : ResultStatus} {response : ProbeResponse}
    : LiveNext adapters job .running (.saveReport job.subtaskId result response)
        (Except.ok ()) (.saved .finished result)
  | saveFails {result : ResultStatus} {response : ProbeResponse} (e : Err)
    : LiveNext adapters job .running (.saveReport job.subtaskId result response)
        (Except.error e) .settled
  | fail {reason : String} (hconf : adapters.isConfigured job.adapter = false)
    : LiveNext adapters job .running (.markSubtaskError job.subtaskId reason)
        (Except.ok ()) (.saved .error .disabled)
  | failFails {reason : String} (e : Err)
    : LiveNext adapters job .running (.markSubtaskError job.subtaskId reason)
        (Except.error e) .settled
  | announce {execStatus : ExecStatus} {resultStatus : ResultStatus}
    : LiveNext adapters job (.saved execStatus resultStatus)
        (.publish (.test job.testId) (probe.subtaskUpdated job execStatus resultStatus))
        (Except.ok ()) .settled
  | announceFails {execStatus : ExecStatus} {resultStatus : ResultStatus} (e : Err)
    : LiveNext adapters job (.saved execStatus resultStatus)
        (.publish (.test job.testId) (probe.subtaskUpdated job execStatus resultStatus))
        (Except.error e) .settled

namespace probe

variable (adapters : AdapterRegistry) (job : ProbeJob)

theorem finish_live
    : WorkerM.Conforms (LiveNext adapters job) (fun _ _ => True) (fun _ => True) (finish job) .settled := by
  apply WorkerM.Conforms.bind
  apply WorkerM.Conforms.bind
  apply store.countSubtasks_conforms
  . intro c
    refine ⟨.settled, .quiet rfl, ?_⟩
    split
    . trivial
    . apply WorkerM.Conforms.bind
      refine fun (r : Except Err Unit) => ⟨.settled, .quiet rfl, ?_⟩
      cases r with
      | error e => trivial
      | ok _ =>
        refine fun (r : Except Err Unit) => ⟨.settled, .quiet rfl, ?_⟩
        cases r <;> trivial
  . exact fun e => ⟨.settled, .quiet rfl, trivial⟩

theorem announce_live (execStatus : ExecStatus) (resultStatus : ResultStatus)
    : WorkerM.Conforms (LiveNext adapters job) (fun _ _ => True) (fun _ => True)
        (publish job execStatus resultStatus >>= fun _ => finish job)
        (.saved execStatus resultStatus) := by
  apply WorkerM.Conforms.bind
  refine fun (r : Except Err Unit) => ?_
  cases r with
  | error e => exact ⟨_, .announceFails e, trivial⟩
  | ok _ => exact ⟨_, .announce, finish_live adapters job⟩

theorem handle_live
    : WorkerM.Conforms (LiveNext adapters job) (fun _ _ => True) (fun _ => True) (handle adapters job)
        .early := by
  have hcall : ∀ {op : Op} {r : op.Reply}, op.isCall = true →
      LiveNext adapters job .running op r .running := by
    intro op r hop
    apply LiveNext.quiet
    cases op with
    | postProbe | cachedCapabilities | fetchCapabilities | cacheCapabilities => rfl
    | _ => cases hop
  apply WorkerM.Conforms.bind
  refine fun (r : Except Err Unit) => ⟨.early, .quiet rfl, ?_⟩
  cases r with
  | error e => trivial
  | ok _ =>
    apply WorkerM.Conforms.bind
    refine fun (r : Except Err Unit) => ?_
    cases r with
    | error e => exact ⟨_, .startFails e, trivial⟩
    | ok _ =>
      refine ⟨_, .start, ?_⟩
      change WorkerM.Conforms _ _ _ (if (!adapters.isConfigured job.adapter) = true then _ else _) _
      cases hconf : adapters.isConfigured job.adapter with
      | false =>
        apply WorkerM.Conforms.bind
        refine fun (r : Except Err Unit) => ?_
        cases r with
        | error e => exact ⟨_, .failFails e, trivial⟩
        | ok _ => exact ⟨_, .fail hconf, announce_live adapters job .error .disabled⟩
      | true =>
        apply WorkerM.Conforms.bind
        apply WorkerM.Conforms.lift
        apply Prog.Conforms.mono (adapters.probe_conforms _ _ hcall)
        rintro response s rfl
        apply WorkerM.Conforms.bind
        apply WorkerM.Conforms.lift
        apply Prog.Conforms.mono (adapters.capabilities_conforms _ hcall)
        rintro outcome s rfl
        apply WorkerM.Conforms.bind
        refine fun (r : Except Err Unit) => ?_
        cases r with
        | error e => exact ⟨_, .saveFails e, trivial⟩
        | ok _ =>
          exact ⟨_, .save, announce_live adapters job .finished (verdict job response outcome)⟩

end probe

theorem tick.task_live {serde : Serde} (adapters : AdapterRegistry) (entry : ProbeEntry serde)
    : (tick.task serde adapters entry.delivery).Conforms (LiveNext adapters entry.job)
        (fun _ _ => True) .early := by
  rw [entry.task_eq]
  apply Prog.Conforms.bind
  apply Prog.Conforms.mono (probe.handle_live adapters entry.job)
  intro r s _
  exact fun _ => ⟨s, .quiet rfl, trivial⟩

def World.Announced (w : World) (id : Uuid) (execStatus : ExecStatus) (resultStatus : ResultStatus)
    : Prop :=
  ∃ channel group alg,
    (channel, Event.subtaskUpdated id execStatus resultStatus group alg) ∈ w.published

/--
All a step of a task can do to the subtasks and to the updates that were published.
-/
inductive LiveEffect (adapters : AdapterRegistry) (job : ProbeJob) (w : World) (s : Live) (w' : World)
    (s' : Live) : Prop where
  | idle (hsub : w'.db.subtasks = w.db.subtasks)
      (hann : ∀ id e r, w'.Announced id e r ↔ w.Announced id e r) (hs : s' = s ∨ s' = .settled)
  | start (f : SubtaskRow → SubtaskRow) (hkey : ∀ row, (f row).key = row.key)
      (hsub : w'.db.subtasks = Table.updateWhere w.db.subtasks (fun row => row.id = job.subtaskId) f)
      (hpub : w'.published = w.published) (hs : s = .early) (hs' : s' = .running)
      (hexec : ∀ row, (f row).execStatus = .running)
  | save (f : SubtaskRow → SubtaskRow) (hkey : ∀ row, (f row).key = row.key)
      (hsub : w'.db.subtasks = Table.updateWhere w.db.subtasks (fun row => row.id = job.subtaskId) f)
      (hpub : w'.published = w.published) (hs : s = .running) (e : ExecStatus) (r : ResultStatus)
      (hs' : s' = .saved e r) (hterm : e.outstanding = false)
      (hexec : ∀ row, (f row).execStatus = e)
      (hresult : adapters.isConfigured job.adapter = true → ∀ row, (f row).resultStatus = r)
  | announce (e : ExecStatus) (r : ResultStatus) (hsub : w'.db.subtasks = w.db.subtasks)
      (hpub : w'.published = w.published ++ [(.test job.testId, probe.subtaskUpdated job e r)])
      (hs : s = .saved e r) (hs' : s' = .settled)

section Effect

variable {adapters : AdapterRegistry} {job : ProbeJob} {env : Env} {w w' : World} {s s' : Live}

theorem liveEffect_of_eq (h : w' = w) (hs : s' = s ∨ s' = .settled) : LiveEffect adapters job w s w' s' := by
  subst h
  exact .idle rfl (fun _ _ _ => Iff.rfl) hs

theorem liveEffect_of_statement {fault : Option Err} {db : Except Err Db} {r : Except Err Unit}
    (hdb : ∀ db', db = .ok db' → db'.subtasks = w.db.subtasks)
    (h : Env.statement fault w db = (r, w')) (hs : s' = s ∨ s' = .settled)
    : LiveEffect adapters job w s w' s' := by
  cases r with
  | error e => exact liveEffect_of_eq (Env.statement_error h) hs
  | ok _ =>
    obtain ⟨db', hok, rfl⟩ := Env.statement_ok h
    exact .idle (hdb db' hok) (fun _ _ _ => Iff.rfl) hs

theorem announced_append_of_ne {channel : Channel} {event : Event}
    (hpub : w'.published = w.published ++ [(channel, event)])
    (hevent : ∀ id e r g a, event ≠ .subtaskUpdated id e r g a) (id : Uuid) (e : ExecStatus)
    (r : ResultStatus) : w'.Announced id e r ↔ w.Announced id e r := by
  unfold World.Announced
  rw [hpub]
  constructor
  . rintro ⟨channel', g, a, hmem⟩
    rw [List.mem_append, List.mem_singleton] at hmem
    rcases hmem with hmem | hmem
    . exact ⟨channel', g, a, hmem⟩
    . cases hmem
      exact absurd rfl (hevent id e r g a)
  . rintro ⟨channel', g, a, hmem⟩
    exact ⟨channel', g, a, List.mem_append_left _ hmem⟩

theorem liveEffect_quiet {op : Op} {r : op.Reply} (hop : op.isQuiet = true)
    (hexec : env.exec op w = (r, w')) : LiveEffect adapters job w s w' s := by
  cases op with
  | markTestRunning testId =>
    apply liveEffect_of_statement _ hexec (.inl rfl)
    rintro _ ⟨⟩
    rfl
  | closeTest testId status =>
    apply liveEffect_of_statement _ hexec (.inl rfl)
    rintro _ ⟨⟩
    rfl
  | countSubtasks testId =>
    unfold Env.exec at hexec
    apply liveEffect_of_eq _ (.inl rfl)
    dsimp only at hexec
    split at hexec <;> cases hexec <;> rfl
  | publish channel event =>
    cases event with
    | testFinished testId passed failed =>
      unfold Env.exec at hexec
      dsimp only at hexec
      split at hexec
      . cases hexec
        exact liveEffect_of_eq rfl (.inl rfl)
      . cases hexec
        refine .idle ?_ ?_ (.inl rfl)
        . rfl
        . apply announced_append_of_ne rfl
          intro _ _ _ _ _ h
          cases h
    | _ => cases hop
  | ack stream id =>
    unfold Env.exec at hexec
    dsimp only at hexec
    split at hexec <;> cases hexec <;> exact .idle rfl (fun _ _ _ => Iff.rfl) (.inl rfl)
  | postProbe | cachedCapabilities | fetchCapabilities | cacheCapabilities =>
    cases hexec
    exact .idle rfl (fun _ _ _ => Iff.rfl) (.inl rfl)
  | _ => cases hop

theorem liveEffect {op : Op} {r : op.Reply} (hnext : LiveNext adapters job s op r s')
    (hexec : env.exec op w = (r, w')) : LiveEffect adapters job w s w' s' := by
  cases hnext with
  | quiet hop => exact liveEffect_quiet hop hexec
  | startFails e | failFails e => exact liveEffect_of_eq (Env.statement_error hexec) (.inr rfl)
  | saveFails e => exact liveEffect_of_eq (Env.statement_error hexec) (.inr rfl)
  | start =>
    obtain ⟨db', hok, rfl⟩ := Env.statement_ok hexec
    cases hok
    exact .start (.start env.now) (fun _ => rfl) rfl rfl rfl rfl (fun _ => rfl)
  | @save result response =>
    obtain ⟨db', hok, rfl⟩ := Env.statement_ok hexec
    exact .save (.finish env.now result response) (fun _ => rfl) (Db.of_saveReport hok).2.1 rfl rfl _ _ rfl rfl
      (fun _ => rfl) (fun _ _ => rfl)
  | @fail reason hconf =>
    obtain ⟨db', hok, rfl⟩ := Env.statement_ok hexec
    cases hok
    refine .save (.fail env.now reason) (fun _ => rfl) rfl rfl rfl _ _ rfl rfl (fun _ => rfl) ?_
    intro h
    rw [hconf] at h
    cases h
  | announce =>
    unfold Env.exec at hexec
    dsimp only at hexec
    split at hexec
    . cases hexec
    . cases hexec
      exact .announce _ _ rfl rfl rfl rfl
  | announceFails e =>
    unfold Env.exec at hexec
    dsimp only at hexec
    split at hexec
    . cases hexec
      exact liveEffect_of_eq rfl (.inr rfl)
    . cases hexec

end Effect

namespace live

variable {serde : Serde} (adapters : AdapterRegistry) (queue : List (ProbeEntry serde)) (testId : Uuid)

variable (serde) in
abbrev State := Pool (ProbeEntry serde) Live World

def phaseOf (threads : List (ProbeEntry serde × Live)) (id : Uuid) : Live :=
  ((threads.find? (fun t => t.1.job.subtaskId = id)).map Prod.snd).getD .early

def RowOk (w : World) (phase : Live) (row : SubtaskRow) : Prop :=
  match phase with
  | .early => row.execStatus = .queued ∧ ∀ e r, ¬ w.Announced row.id e r
  | .running => row.execStatus = .running ∧ ∀ e r, ¬ w.Announced row.id e r
  | .saved e r =>
    row.execStatus = e ∧ row.resultStatus = r ∧ ∀ e r, ¬ w.Announced row.id e r
  | .settled => ∀ e r, w.Announced row.id e r → row.execStatus = e ∧ row.resultStatus = r

structure Inv (a : State serde) : Prop extends Queued queue a.world.db where
  threads_mem : ∀ t ∈ a.threads, t.1 ∈ queue
  once : (a.threads.map Prod.fst).Nodup
  rows : ∀ row ∈ a.world.db.subtasksOf testId, RowOk a.world (phaseOf a.threads row.id) row

variable {adapters queue testId}

theorem announced_of_rowOk {w : World} {phase : Live} {row : SubtaskRow} (h : RowOk w phase row)
    {e : ExecStatus} {r : ResultStatus} (hann : w.Announced row.id e r)
    : row.execStatus = e ∧ row.resultStatus = r := by
  cases phase with
  | early | running => exact absurd hann (h.2 e r)
  | saved e' r' => exact absurd hann (h.2.2 e r)
  | settled => exact h e r hann

theorem rowOk_settled {w : World} {phase : Live} {row : SubtaskRow} (h : RowOk w phase row)
    : RowOk w .settled row :=
  fun _ _ hann => announced_of_rowOk h hann

theorem rowOk_congr {w w' : World} {phase : Live} {row : SubtaskRow}
    (hann : ∀ e r, w'.Announced row.id e r ↔ w.Announced row.id e r) (h : RowOk w phase row)
    : RowOk w' phase row := by
  unfold RowOk at h ⊢
  simpa only [hann] using h

section PhaseOf

variable {t : ProbeEntry serde} {s s' : Live} {ts ts₁ ts₂ : List (ProbeEntry serde × Live)} {id : Uuid}

theorem phaseOf_self (h : ∀ u ∈ ts₁, u.1.job.subtaskId ≠ t.job.subtaskId)
    : phaseOf (ts₁ ++ (t, s) :: ts₂) t.job.subtaskId = s := by
  unfold phaseOf
  have hnone : ts₁.find? (fun u => u.1.job.subtaskId = t.job.subtaskId) = none := by
    rw [List.find?_eq_none]
    intro u hu
    simpa using h u hu
  rw [List.find?_append, hnone]
  simp

theorem phaseOf_of_ne (h : t.job.subtaskId ≠ id)
    : phaseOf (ts₁ ++ (t, s') :: ts₂) id = phaseOf (ts₁ ++ (t, s) :: ts₂) id := by
  unfold phaseOf
  simp [List.find?_append, h]

theorem phaseOf_spawn (h : ∀ u ∈ ts, u.1.job.subtaskId ≠ t.job.subtaskId)
    : phaseOf ((t, .early) :: ts) id = phaseOf ts id := by
  unfold phaseOf
  rw [List.find?_cons]
  by_cases hid : t.job.subtaskId = id
  . have hnone : ts.find? (fun u => u.1.job.subtaskId = id) = none := by
      rw [List.find?_eq_none]
      intro u hu
      simpa [← hid] using h u hu
    rw [hnone]
    simp [hid]
  . simp [hid]

end PhaseOf

theorem inv_init {w : World} (h : Queued queue w.db)
    (hqueued : ∀ row ∈ w.db.subtasksOf testId, row.execStatus = .queued)
    (hpub : ∀ row ∈ w.db.subtasksOf testId, ∀ e r, ¬ w.Announced row.id e r)
    : Inv queue testId ⟨w, []⟩ := by
  constructor
  case toQueued => exact h
  case threads_mem => simp
  case once => exact List.nodup_nil
  case rows => exact fun row hrow => ⟨hqueued row hrow, hpub row hrow⟩

section Steps

variable {w w' : World} {t : ProbeEntry serde} {s s' : Live}
variable {ts ts₁ ts₂ : List (ProbeEntry serde × Live)}

theorem Inv.ne_of_mem (h : Inv queue testId ⟨w, ts₁ ++ (t, s) :: ts₂⟩)
    : ∀ u ∈ ts₁, u.1.job.subtaskId ≠ t.job.subtaskId := by
  intro u hu hid
  have heq : u.1 = t := h.job_unique u.1 (h.threads_mem u (by simp [hu])) t (h.threads_mem (t, s) (by simp)) hid
  have honce := h.once
  rw [List.map_append, List.nodup_append] at honce
  exact honce.2.2 u.1 (List.mem_map_of_mem hu) t (by simp) heq

theorem inv_spawn (h : Inv queue testId ⟨w, ts⟩) (ht : t ∈ queue) (hnew : ∀ u ∈ ts, u.1 ≠ t)
    : Inv queue testId ⟨w, (t, .early) :: ts⟩ := by
  have hne : ∀ u ∈ ts, u.1.job.subtaskId ≠ t.job.subtaskId :=
    fun u hu hid => hnew u hu (h.job_unique u.1 (h.threads_mem u hu) t ht hid)
  constructor
  case toQueued => exact h.toQueued
  case threads_mem => exact List.forall_mem_cons.mpr ⟨ht, h.threads_mem⟩
  case once =>
    rw [List.map_cons, List.nodup_cons]
    refine ⟨?_, h.once⟩
    rw [List.mem_map]
    rintro ⟨u, hu, hut⟩
    exact hnew u hu hut
  case rows =>
    intro row hrow
    rw [phaseOf_spawn hne]
    exact h.rows row hrow

theorem inv_replace (h : Inv queue testId ⟨w, ts₁ ++ (t, s) :: ts₂⟩) (hqueued : Queued queue w'.db)
    (hown : ∀ row ∈ w'.db.subtasksOf testId, row.id = t.job.subtaskId → RowOk w' s' row)
    (hother : ∀ row ∈ w'.db.subtasksOf testId, row.id ≠ t.job.subtaskId →
      row ∈ w.db.subtasksOf testId ∧ ∀ e r, w'.Announced row.id e r ↔ w.Announced row.id e r)
    : Inv queue testId ⟨w', ts₁ ++ (t, s') :: ts₂⟩ := by
  constructor
  case toQueued => exact hqueued
  case threads_mem => exact Pool.forall_replace h.threads_mem id
  case once =>
    have honce := h.once
    rw [List.map_append, List.map_cons] at honce ⊢
    exact honce
  case rows =>
    intro row hrow
    by_cases hid : row.id = t.job.subtaskId
    . rw [hid, phaseOf_self h.ne_of_mem]
      exact hown row hrow hid
    . obtain ⟨hold, hann⟩ := hother row hrow hid
      rw [phaseOf_of_ne (s := s) (Ne.symm hid)]
      exact rowOk_congr hann (h.rows row hold)

theorem Inv.own (h : Inv queue testId ⟨w, ts₁ ++ (t, s) :: ts₂⟩) {row : SubtaskRow}
    (hrow : row ∈ w.db.subtasksOf testId) (hid : row.id = t.job.subtaskId) : RowOk w s row := by
  have hok := h.rows row hrow
  rwa [hid, phaseOf_self h.ne_of_mem] at hok

theorem queued_congr {db db' : Db} (h : Queued queue db) (hsub : db'.subtasks = db.subtasks)
    : Queued queue db' := by
  constructor
  . exact hsub ▸ h.ids_nodup
  . exact hsub ▸ h.row_of_job
  . exact h.job_unique

theorem subtasksOf_congr {db db' : Db} (hsub : db'.subtasks = db.subtasks)
    : db'.subtasksOf testId = db.subtasksOf testId := by
  unfold Db.subtasksOf
  rw [hsub]

theorem subtasksOf_updateWhere {db db' : Db} {p : SubtaskRow → Bool} {f : SubtaskRow → SubtaskRow}
    (hkey : ∀ row, (f row).key = row.key) (hsub : db'.subtasks = Table.updateWhere db.subtasks p f)
    : db'.subtasksOf testId = Table.updateWhere (db.subtasksOf testId) p f := by
  unfold Db.subtasksOf
  rw [hsub, Table.filter_updateWhere]
  intro row
  have htest : (f row).testId = row.testId := congrArg (fun key => key.2.1) (hkey row)
  rw [htest]

theorem mem_written {db db' : Db} {id : Uuid} {f : SubtaskRow → SubtaskRow}
    (hkey : ∀ row, (f row).key = row.key)
    (hsub : db'.subtasks = Table.updateWhere db.subtasks (fun row => row.id = id) f)
    {row : SubtaskRow} (hrow : row ∈ db'.subtasksOf testId)
    : (∃ old ∈ db.subtasksOf testId, old.id = id ∧ row.id = id ∧ row = f old)
        ∨ (row ∈ db.subtasksOf testId ∧ row.id ≠ id) := by
  rw [subtasksOf_updateWhere hkey hsub, Table.mem_updateWhere] at hrow
  rcases hrow with ⟨old, hold, hid, rfl⟩ | ⟨hrow, hid⟩
  . have hid : old.id = id := by simpa using hid
    have hsame : (f old).id = old.id := congrArg (fun key => key.1) (hkey old)
    exact .inl ⟨old, hold, hid, hsame.trans hid, rfl⟩
  . exact .inr ⟨hrow, by simpa using hid⟩

theorem queued_written {db db' : Db} {id : Uuid} {f : SubtaskRow → SubtaskRow} (h : Queued queue db)
    (hkey : ∀ row, (f row).key = row.key)
    (hsub : db'.subtasks = Table.updateWhere db.subtasks (fun row => row.id = id) f)
    : Queued queue db' :=
  h.write (fun row => congrArg (fun key => key.1) (hkey row))
    (fun row => congrArg (fun key => key.2.1) (hkey row)) hsub

theorem announced_congr {w w' : World} (hpub : w'.published = w.published) (id : Uuid)
    (e : ExecStatus) (r : ResultStatus) : w'.Announced id e r ↔ w.Announced id e r := by
  unfold World.Announced
  rw [hpub]

theorem silent_written {f : SubtaskRow → SubtaskRow} (hkey : ∀ row, (f row).key = row.key)
    (hpub : w'.published = w.published) {row : SubtaskRow} (h : ∀ e r, ¬ w.Announced row.id e r)
    : ∀ e r, ¬ w'.Announced (f row).id e r := by
  intro e r hann
  have hid : (f row).id = row.id := congrArg (fun key => key.1) (hkey row)
  rw [announced_congr hpub, hid] at hann
  exact h e r hann

theorem inv_idle (h : Inv queue testId ⟨w, ts₁ ++ (t, s) :: ts₂⟩)
    (hsub : w'.db.subtasks = w.db.subtasks) (hann : ∀ id e r, w'.Announced id e r ↔ w.Announced id e r)
    (hs : s' = s ∨ s' = .settled)
    : Inv queue testId ⟨w', ts₁ ++ (t, s') :: ts₂⟩ := by
  apply inv_replace h (queued_congr h.toQueued hsub)
  case hown =>
    intro row hrow hid
    rw [subtasksOf_congr hsub] at hrow
    have hok := h.own hrow hid
    rcases hs with rfl | rfl
    . exact rowOk_congr (hann row.id) hok
    . exact rowOk_congr (hann row.id) (rowOk_settled hok)
  case hother =>
    intro row hrow _
    rw [subtasksOf_congr hsub] at hrow
    exact ⟨hrow, hann row.id⟩

theorem inv_write (h : Inv queue testId ⟨w, ts₁ ++ (t, s) :: ts₂⟩) {f : SubtaskRow → SubtaskRow}
    (hkey : ∀ row, (f row).key = row.key)
    (hsub : w'.db.subtasks = Table.updateWhere w.db.subtasks (fun row => row.id = t.job.subtaskId) f)
    (hpub : w'.published = w.published)
    (hwritten : ∀ row ∈ w.db.subtasksOf testId, row.id = t.job.subtaskId → RowOk w' s' (f row))
    : Inv queue testId ⟨w', ts₁ ++ (t, s') :: ts₂⟩ := by
  apply inv_replace h (queued_written h.toQueued hkey hsub)
  case hown =>
    intro row hrow hid
    rcases mem_written hkey hsub hrow with ⟨old, hold, holdid, -, rfl⟩ | ⟨-, hne⟩
    . exact hwritten old hold holdid
    . exact absurd hid hne
  case hother =>
    intro row hrow hid
    rcases mem_written hkey hsub hrow with ⟨-, -, -, hid', -⟩ | ⟨hold, -⟩
    . exact absurd hid' hid
    . exact ⟨hold, announced_congr hpub row.id⟩

theorem announced_append_iff {e e' : ExecStatus} {r r' : ResultStatus} {id : Uuid}
    (hpub : w'.published = w.published ++ [(.test t.job.testId, probe.subtaskUpdated t.job e r)])
    : w'.Announced id e' r' ↔ w.Announced id e' r' ∨ (id = t.job.subtaskId ∧ e' = e ∧ r' = r) := by
  unfold World.Announced
  rw [hpub]
  constructor
  . rintro ⟨channel, g, a, hmem⟩
    rw [List.mem_append, List.mem_singleton] at hmem
    rcases hmem with hmem | hmem
    . exact .inl ⟨channel, g, a, hmem⟩
    . simp only [probe.subtaskUpdated, Prod.mk.injEq, Event.subtaskUpdated.injEq] at hmem
      exact .inr ⟨hmem.2.1, hmem.2.2.1, hmem.2.2.2.1⟩
  . rintro (⟨channel, g, a, hmem⟩ | ⟨rfl, rfl, rfl⟩)
    . exact ⟨channel, g, a, List.mem_append_left _ hmem⟩
    . exact ⟨_, _, _, List.mem_append_right _ (List.mem_singleton_self _)⟩

theorem inv_announce {e : ExecStatus} {r : ResultStatus}
    (h : Inv queue testId ⟨w, ts₁ ++ (t, .saved e r) :: ts₂⟩) (hsub : w'.db.subtasks = w.db.subtasks)
    (hpub : w'.published = w.published ++ [(.test t.job.testId, probe.subtaskUpdated t.job e r)])
    : Inv queue testId ⟨w', ts₁ ++ (t, .settled) :: ts₂⟩ := by
  apply inv_replace h (queued_congr h.toQueued hsub)
  case hown =>
    intro row hrow hid e' r' hann
    rw [subtasksOf_congr hsub] at hrow
    obtain ⟨hexec, hresult, hsilent⟩ := h.own hrow hid
    rcases (announced_append_iff hpub).mp hann with hann | ⟨-, rfl, rfl⟩
    . exact absurd hann (hsilent e' r')
    . exact ⟨hexec, hresult⟩
  case hother =>
    intro row hrow hid
    rw [subtasksOf_congr hsub] at hrow
    refine ⟨hrow, ?_⟩
    intro e' r'
    rw [announced_append_iff hpub]
    exact or_iff_left (fun hself => hid hself.1)

theorem inv_perform (hconf : ∀ entry ∈ queue, entry.job.testId = testId →
      adapters.isConfigured entry.job.adapter = true)
    (h : Inv queue testId ⟨w, ts₁ ++ (t, s) :: ts₂⟩) (heffect : LiveEffect adapters t.job w s w' s')
    : Inv queue testId ⟨w', ts₁ ++ (t, s') :: ts₂⟩ := by
  cases heffect with
  | idle hsub hann hs => exact inv_idle h hsub hann hs
  | start f hkey hsub hpub hs hs' hexec =>
    subst hs hs'
    apply inv_write h hkey hsub hpub
    intro row hrow hid
    obtain ⟨-, hsilent⟩ := h.own hrow hid
    exact ⟨hexec row, silent_written hkey hpub hsilent⟩
  | save f hkey hsub hpub hs e r hs' hterm hexec hresult =>
    subst hs hs'
    apply inv_write h hkey hsub hpub
    intro row hrow hid
    have hmem : t ∈ queue := h.threads_mem (t, .running) (by simp)
    have htest : t.job.testId = testId := by
      rw [← h.testId_eq hmem (List.mem_of_mem_filter hrow) hid.symm]
      simpa using List.of_mem_filter hrow
    obtain ⟨-, hsilent⟩ := h.own hrow hid
    exact ⟨hexec row, hresult (hconf t hmem htest) row, silent_written hkey hpub hsilent⟩
  | announce e r hsub hpub hs hs' =>
    subst hs hs'
    exact inv_announce h hsub hpub

end Steps

def rank (status : ExecStatus) : Nat :=
  match status with
  | .queued => 0
  | .running => 1
  | .finished | .error => 2

def Later (old row : SubtaskRow) : Prop :=
  (row.execStatus = old.execStatus ∧ row.resultStatus = old.resultStatus)
    ∨ rank old.execStatus < rank row.execStatus

theorem Later.rank_le {old row : SubtaskRow} (h : Later old row)
    : rank old.execStatus ≤ rank row.execStatus := by
  rcases h with ⟨hexec, -⟩ | hlt
  . rw [hexec]
  . omega

theorem Later.of_rank_lt {old row row' : SubtaskRow} (h : Later old row)
    (hlt : rank row.execStatus < rank row'.execStatus) : Later old row' :=
  .inr (Nat.lt_of_le_of_lt h.rank_le hlt)

theorem Later.eq_iff {old row : SubtaskRow} (h : Later old row)
    : row.execStatus = old.execStatus
        ↔
      row.execStatus = old.execStatus ∧ row.resultStatus = old.resultStatus := by
  constructor
  . intro hexec
    rcases h with h | hlt
    . exact h
    . rw [hexec] at hlt
      omega
  . exact And.left

variable (queue testId) in
structure Since (w₀ : World) (a : State serde) : Prop extends Inv queue testId a where
  keys : a.world.db.subtasks.map SubtaskRow.key = w₀.db.subtasks.map SubtaskRow.key
  later : ∀ old ∈ w₀.db.subtasksOf testId, ∀ row ∈ a.world.db.subtasksOf testId, row.id = old.id →
    Later old row

theorem since_self {a : State serde} (h : Inv queue testId a) : Since queue testId a.world a := by
  constructor
  case toInv => exact h
  case keys => rfl
  case later =>
    intro old hold row hrow hid
    have heq : row = old := List.inj_on_of_nodup_map h.ids_nodup (List.mem_of_mem_filter hrow)
      (List.mem_of_mem_filter hold) hid
    rw [heq]
    exact .inl ⟨rfl, rfl⟩

section Run

variable {w₀ w w' : World} {t : ProbeEntry serde} {s s' : Live}
variable {ts ts₁ ts₂ : List (ProbeEntry serde × Live)}

theorem since_spawn (h : Since queue testId w₀ ⟨w, ts⟩) (ht : t ∈ queue) (hnew : ∀ u ∈ ts, u.1 ≠ t)
    : Since queue testId w₀ ⟨w, (t, .early) :: ts⟩ := by
  constructor
  case toInv => exact inv_spawn h.toInv ht hnew
  case keys => exact h.keys
  case later => exact h.later

theorem later_written {f : SubtaskRow → SubtaskRow} (h : Since queue testId w₀ ⟨w, ts⟩) {id : Uuid}
    (hkey : ∀ row, (f row).key = row.key)
    (hsub : w'.db.subtasks = Table.updateWhere w.db.subtasks (fun row => row.id = id) f)
    (hrank : ∀ row ∈ w.db.subtasksOf testId, row.id = id →
      rank row.execStatus < rank (f row).execStatus)
    : ∀ old ∈ w₀.db.subtasksOf testId, ∀ row ∈ w'.db.subtasksOf testId, row.id = old.id →
        Later old row := by
  intro old hold row hrow hid
  rcases mem_written hkey hsub hrow with ⟨row', hrow', hid', hid'', rfl⟩ | ⟨hrow', -⟩
  . apply (h.later old hold row' hrow' _).of_rank_lt (hrank row' hrow' hid')
    rw [hid', ← hid'', hid]
  . exact h.later old hold row hrow' hid

theorem since_perform (hconf : ∀ entry ∈ queue, entry.job.testId = testId →
      adapters.isConfigured entry.job.adapter = true)
    (h : Since queue testId w₀ ⟨w, ts₁ ++ (t, s) :: ts₂⟩)
    (heffect : LiveEffect adapters t.job w s w' s')
    : Since queue testId w₀ ⟨w', ts₁ ++ (t, s') :: ts₂⟩ := by
  have hinv := inv_perform hconf h.toInv heffect
  cases heffect with
  | idle hsub hann hs =>
    refine ⟨hinv, ?_, ?_⟩
    . exact hsub ▸ h.keys
    . intro old hold row hrow
      rw [subtasksOf_congr hsub] at hrow
      exact h.later old hold row hrow
  | announce e r hsub hpub hs hs' =>
    refine ⟨hinv, ?_, ?_⟩
    . exact hsub ▸ h.keys
    . intro old hold row hrow
      rw [subtasksOf_congr hsub] at hrow
      exact h.later old hold row hrow
  | start f hkey hsub hpub hs hs' hexec =>
    subst hs
    refine ⟨hinv, ?_, ?_⟩
    . dsimp only
      rw [hsub, Table.map_updateWhere SubtaskRow.key hkey]
      exact h.keys
    . apply later_written h hkey hsub
      intro row hrow hid
      rw [(h.own hrow hid).1, hexec]
      decide
  | save f hkey hsub hpub hs e r hs' hterm hexec hresult =>
    subst hs
    refine ⟨hinv, ?_, ?_⟩
    . dsimp only
      rw [hsub, Table.map_updateWhere SubtaskRow.key hkey]
      exact h.keys
    . apply later_written h hkey hsub
      intro row hrow hid
      rw [(h.own hrow hid).1, hexec]
      cases e with
      | queued | running => cases hterm
      | finished | error => decide

def HandsOutOnce (s : system.State serde) (l : Pool.Label (ProbeEntry serde) Op) : Prop :=
  ∀ entry, l = .spawn entry → ∀ t ∈ s.threads, t.1 ≠ entry

variable (adapters) in
def Simulates (s : system.State serde) (a : State serde) : Prop :=
  Pool.Simulates (fun entry => LiveNext adapters entry.job) (fun _ _ _ => True) s a

theorem since_run {good : Env → Prop} {s s' : system.State serde} {a : State serde}
    (hconf : ∀ entry ∈ queue, entry.job.testId = testId →
      adapters.isConfigured entry.job.adapter = true)
    (hsim : Simulates adapters s a) (h : Since queue testId w₀ a)
    (hrun : system.Run good adapters queue HandsOutOnce s s')
    : ∃ a', Simulates adapters s' a' ∧ Since queue testId w₀ a' := by
  apply Pool.Simulates.invariant (fun entry => tick.task_live adapters entry) _ hsim h hrun
  intro p a l a' hsim honce h hstep
  cases hstep with
  | spawn t ht =>
    apply since_spawn h ht.1
    intro u hu
    obtain ⟨q, hq, -⟩ := hsim.exists_prog hu
    exact honce t rfl _ hq
  | perform t op s s' r hexec hs =>
    obtain ⟨env, -, hexec⟩ := hexec
    exact since_perform hconf h (liveEffect hs hexec)

theorem run_alone {good : Env → Prop} {env : Env} (henv : good env) {entry : ProbeEntry serde}
    (hentry : system.Deliverable queue w entry)
    : system.Run good adapters queue HandsOutOnce (system.init w)
        ⟨((tick.task serde adapters entry.delivery).run env.exec w).2, [(entry, .pure ())]⟩ := by
  obtain ⟨n, hn⟩ := Prog.exists_stop_eq_run env.exec (tick.task serde adapters entry.delivery) w
  have hsteps : system.Run good adapters queue HandsOutOnce ⟨w, [(entry, tick.task serde adapters entry.delivery)]⟩
      ⟨((tick.task serde adapters entry.delivery).stop env.exec n w).2,
        [(entry, ((tick.task serde adapters entry.delivery).stop env.exec n w).1)]⟩ := by
    apply system.run_stop henv
    intro m _
    split
    . intro _ h
      cases h
    . trivial
  rw [hn] at hsteps
  apply Relation.ReflTransGen.head _ hsteps
  refine ⟨.spawn entry, ?_, .spawn entry hentry⟩
  intro _ _ t ht
  cases ht

end Run

end live

end PqCas
