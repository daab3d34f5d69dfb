import PqCas.Worker.CloseOut

/-!
Whether a closed test can have outstanding subtasks. A redelivered job puts its row back on `running`
whatever became of the test, so this depends on when that happens.
-/

namespace PqCas

def Db.NothingOutstanding (db : Db) (testId : Uuid) : Prop :=
  ∀ row ∈ db.subtasksOf testId, row.execStatus.outstanding = false

namespace outstanding

variable {serde : Serde} (adapters : AdapterRegistry) (queue : List (ProbeEntry serde)) (testId : Uuid)

def Settled (db : Db) : Prop :=
  db.TestClosed testId → db.NothingOutstanding testId

/--
The check `mark_subtask_running` does not make: when a task of the test performs it, the test is not
closed and no task is about to close it.
-/
def Guard (s : system.State serde) (l : Pool.Label (ProbeEntry serde) Op) : Prop :=
  match l with
  | .perform entry (.markSubtaskRunning _) =>
    entry.job.testId = testId →
      ¬ s.world.db.TestClosed testId
        ∧ ∀ t ∈ s.threads, ∀ status k, t.2 ≠ .op (.closeTest testId status) k
  | _ => True

/--
What guarded runs maintain: a task that was told to close the test finds nothing outstanding when it
does, and a test that was closed before stays closed.
-/
structure Inv (closedBefore : Prop) (a : system.PhaseState serde) : Prop
    extends Queued queue a.world.db where
  threads_mem : ∀ t ∈ a.threads, t.1 ∈ queue
  closed : Settled testId a.world.db
  counted : ∀ t ∈ a.threads, t.1.job.testId = testId → ∀ c, t.2 = .counted c →
    a.world.db.NothingOutstanding testId
  stays : closedBefore → a.world.db.TestClosed testId

variable {adapters queue testId} {closedBefore : Prop}

section Steps

variable {w w' : World} {ts₁ ts₂ : List (ProbeEntry serde × Phase)} {t : ProbeEntry serde}
variable {s s' : Phase}

theorem inv_move (h : Inv queue testId closedBefore ⟨w, ts₁ ++ (t, s) :: ts₂⟩) (hqueued : Queued queue w'.db)
    (hout : w.db.NothingOutstanding testId → w'.db.NothingOutstanding testId)
    (hclosed : w'.db.TestClosed testId → w.db.TestClosed testId ∨ w'.db.NothingOutstanding testId)
    (hcounted : t.job.testId = testId → ∀ c, s' = .counted c → w'.db.NothingOutstanding testId)
    (hstays : w.db.TestClosed testId → w'.db.TestClosed testId)
    : Inv queue testId closedBefore ⟨w', ts₁ ++ (t, s') :: ts₂⟩ := by
  constructor
  case toQueued => exact hqueued
  case threads_mem => exact Pool.forall_replace h.threads_mem id
  case closed =>
    intro hc
    rcases hclosed hc with hc | hc
    . exact hout (h.closed hc)
    . exact hc
  case counted =>
    have hcounted' : ∀ t' ∈ ts₁ ++ (t, s) :: ts₂, t'.1.job.testId = testId → ∀ c, t'.2 = .counted c →
        w'.db.NothingOutstanding testId :=
      fun t' ht' hmine c hc => hout (h.counted t' ht' hmine c hc)
    exact Pool.forall_replace hcounted' (fun _ => hcounted)
  case stays => exact fun hb => hstays (h.stays hb)

theorem inv_idle (h : Inv queue testId closedBefore ⟨w, ts₁ ++ (t, s) :: ts₂⟩) (hdb : w'.db = w.db)
    (hs : ∀ c, s' ≠ .counted c) : Inv queue testId closedBefore ⟨w', ts₁ ++ (t, s') :: ts₂⟩ := by
  apply inv_move h
  . exact hdb ▸ h.toQueued
  . exact hdb ▸ id
  . exact hdb ▸ .inl
  . exact fun _ c hc => absurd hc (hs c)
  . exact hdb ▸ id

theorem nothingOutstanding_updateWhere {db db' : Db} {p : SubtaskRow → Bool}
    {f : SubtaskRow → SubtaskRow} (hf : probe.Settles f)
    (hsub : db'.subtasks = Table.updateWhere db.subtasks p f) (h : db.NothingOutstanding testId)
    : db'.NothingOutstanding testId := by
  intro row hrow
  have hof : db'.subtasksOf testId = Table.updateWhere (db.subtasksOf testId) p f := by
    unfold Db.subtasksOf
    rw [hsub]
    apply Table.filter_updateWhere
    simp [hf.testId]
  rw [hof, Table.mem_updateWhere] at hrow
  rcases hrow with ⟨old, -, -, rfl⟩ | ⟨hrow, -⟩
  . apply hf.settled
  . exact h row hrow

theorem inv_settle (h : Inv queue testId closedBefore ⟨w, ts₁ ++ (t, s) :: ts₂⟩) {f : SubtaskRow → SubtaskRow}
    (hf : probe.Settles f)
    (hsub : w'.db.subtasks = Table.updateWhere w.db.subtasks (fun row => row.id = t.job.subtaskId) f)
    (htests : w'.db.tests = w.db.tests)
    : Inv queue testId closedBefore ⟨w', ts₁ ++ (t, .saved) :: ts₂⟩ := by
  have hclosed : w'.db.TestClosed testId ↔ w.db.TestClosed testId := by
    unfold Db.TestClosed Db.test?
    rw [htests]
  apply inv_move h
  . exact h.toQueued.write hf.id hf.testId hsub
  . exact nothingOutstanding_updateWhere hf hsub
  . exact fun hc => .inl (hclosed.mp hc)
  . intro _ c hc
    cases hc
  . exact hclosed.mpr

theorem inv_start {now : Time} (h : Inv queue testId closedBefore ⟨w, ts₁ ++ (t, .opened) :: ts₂⟩)
    (hdb : w'.db = w.db.markSubtaskRunning now t.job.subtaskId)
    (hguard : t.job.testId = testId → ¬ w.db.TestClosed testId
      ∧ ∀ t' ∈ ts₁ ++ (t, Phase.opened) :: ts₂, t'.1.job.testId = testId → ∀ c, t'.2 ≠ .counted c)
    : Inv queue testId closedBefore ⟨w', ts₁ ++ (t, .running) :: ts₂⟩ := by
  have hqueued : Queued queue w'.db := by
    rw [hdb]
    exact h.toQueued.write (f := .start now) (fun _ => rfl) (fun _ => rfl) rfl
  have hclosed : w'.db.TestClosed testId ↔ w.db.TestClosed testId := by
    rw [hdb]
    rfl
  by_cases hmine : t.job.testId = testId
  . obtain ⟨hnot, hnone⟩ := hguard hmine
    constructor
    case toQueued => exact hqueued
    case threads_mem => exact Pool.forall_replace h.threads_mem id
    case stays => exact fun hb => hclosed.mpr (h.stays hb)
    case closed => exact fun hc => absurd (hclosed.mp hc) hnot
    case counted =>
      have hnone' : ∀ t' ∈ ts₁ ++ (t, Phase.running) :: ts₂, t'.1.job.testId = testId →
          ∀ c, t'.2 ≠ .counted c := Pool.forall_replace hnone (fun _ _ c hc => by cases hc)
      exact fun t' ht' hmine' c hc => absurd hc (hnone' t' ht' hmine' c)
  . have hof : w'.db.subtasksOf testId = w.db.subtasksOf testId := by
      have hmem : t ∈ queue := h.threads_mem (t, .opened) (by simp)
      rw [hdb, ← h.updateWhere_of_ne hmem hmine (.start now)]
      unfold Db.subtasksOf Db.markSubtaskRunning
      apply Table.filter_updateWhere
      intro row
      rfl
    apply inv_move h hqueued
    . unfold Db.NothingOutstanding
      rw [hof]
      exact id
    . exact fun hc => .inl (hclosed.mp hc)
    . intro _ c hc
      cases hc
    . exact hclosed.mpr

theorem closeTest_of_counted {entry : ProbeEntry serde} {p : Prog Op Op.Reply Unit}
    {c : SubtaskCounts}
    (h : p.Conforms (Next adapters entry.delivery entry.job) (fun _ phase => phase = .acked) (.counted c))
    : ∃ status k, p = .op (.closeTest entry.job.testId status) k := by
  cases p with
  | pure u => cases h
  | op op k =>
    -- Any environment answers any operation.
    obtain ⟨s', hs', -⟩ := h (probe.labEnv.exec op probe.labWorld).1
    generalize (probe.labEnv.exec op probe.labWorld).1 = r at hs'
    cases hs' with
    | close => exact ⟨_, k, rfl⟩
    | closeFails e => exact ⟨_, k, rfl⟩

theorem inv_perform {op : Op} {r : op.Reply} {env : Env}
    (h : Inv queue testId closedBefore ⟨w, ts₁ ++ (t, s) :: ts₂⟩) (hexec : env.exec op w = (r, w'))
    (hs : Next adapters t.delivery t.job s op r s')
    (hguard : op = .markSubtaskRunning t.job.subtaskId → t.job.testId = testId →
      ¬ w.db.TestClosed testId
        ∧ ∀ t' ∈ ts₁ ++ (t, s) :: ts₂, t'.1.job.testId = testId → ∀ c, t'.2 ≠ .counted c)
    : Inv queue testId closedBefore ⟨w', ts₁ ++ (t, s') :: ts₂⟩ := by
  have hmem : t ∈ queue := h.threads_mem (t, s) (by simp)
  cases hs with
  | openTest =>
    obtain ⟨db', hdb', rfl⟩ := Env.statement_ok hexec
    cases hdb'
    refine inv_move h ⟨h.ids_nodup, h.row_of_job, h.job_unique⟩ id ?_ (by simp) ?_
    . exact fun hc => .inl (Db.testClosed_markTestRunning.mp hc)
    . exact Db.testClosed_markTestRunning.mpr
  | startSubtask =>
    obtain ⟨db', hdb', rfl⟩ := Env.statement_ok hexec
    cases hdb'
    exact inv_start h rfl (hguard rfl)
  | call hop =>
    have hdb := (env.exec_call hop w).1
    rw [hexec] at hdb
    exact inv_idle h hdb (by simp)
  | @save result response hconf hresult =>
    obtain ⟨db', hdb', rfl⟩ := Env.statement_ok hexec
    obtain ⟨db'', hsave, htests, hsub⟩ := h.saveReport_eq hmem env.now result response
    cases hdb'.symm.trans hsave
    exact inv_settle h (probe.settles_finish env.now result response) hsub htests
  | @failSubtask reason hconf =>
    obtain ⟨db', hdb', rfl⟩ := Env.statement_ok hexec
    cases hdb'
    exact inv_settle h (probe.settles_fail env.now reason) rfl rfl
  | countNone hc =>
    simp only [Env.exec] at hexec
    split at hexec <;> cases hexec
    refine inv_move h h.toQueued id .inl ?_ id
    intro hmine c' _
    rw [hmine] at hc
    exact Db.outstanding_eq_zero_iff.mp hc
  | @close c =>
    obtain ⟨db', hdb', rfl⟩ := Env.statement_ok hexec
    cases hdb'
    refine inv_move h ⟨h.ids_nodup, h.row_of_job, h.job_unique⟩ id ?_ (by simp) ?_
    . intro hclosed
      by_cases hmine : t.job.testId = testId
      . exact .inr (h.counted (t, .counted c) (by simp) hmine c rfl)
      . exact .inl ((Db.testClosed_closeTest_of_ne (fun heq => hmine heq.symm)).mp hclosed)
    . intro hclosed
      by_cases hmine : t.job.testId = testId
      . obtain ⟨test, htest, -⟩ := hclosed
        subst hmine
        exact Db.testClosed_closeTest env.now htest c
      . exact (Db.testClosed_closeTest_of_ne (fun heq => hmine heq.symm)).mpr hclosed
  | openTestFails e | startSubtaskFails e | saveFails e | failSubtaskFails e | closeFails e =>
    have hw := Env.statement_error hexec
    exact inv_idle h (by rw [hw]) (by simp)
  | announce | announceFails e | countSome hc | countFails e | finish | ack =>
    simp only [Env.exec] at hexec
    split at hexec <;> cases hexec <;> exact inv_idle h rfl (by simp)

theorem inv_spawn (h : Inv queue testId closedBefore ⟨w, ts₁⟩) (ht : t ∈ queue)
    : Inv queue testId closedBefore ⟨w, (t, .received) :: ts₁⟩ := by
  constructor
  case toQueued => exact h.toQueued
  case threads_mem => exact List.forall_mem_cons.mpr ⟨ht, h.threads_mem⟩
  case closed => exact h.closed
  case counted =>
    refine List.forall_mem_cons.mpr ⟨?_, h.counted⟩
    intro _ c hc
    cases hc
  case stays => exact h.stays

end Steps

variable {good : Env → Prop} {w : World} {s s' : system.State serde}

theorem inv_step {a a' : system.PhaseState serde} {l : Pool.Label (ProbeEntry serde) Op}
    (hsim : system.Simulates adapters s a) (hguard : Guard testId s l)
    (h : Inv queue testId closedBefore a) (hstep : system.PhaseStep good adapters queue a l a')
    : Inv queue testId closedBefore a' := by
  cases hstep with
  | spawn t ht => exact inv_spawn h ht.1
  | perform t op phase phase' r hexec hs =>
    obtain ⟨env, -, hexec⟩ := hexec
    apply inv_perform h hexec hs
    rintro rfl hmine
    obtain ⟨hnot, hnone⟩ := hguard hmine
    rw [hsim.world] at hnot
    refine ⟨hnot, ?_⟩
    rintro ⟨t', _⟩ ht' hmine' c rfl
    obtain ⟨p, hp, hconf⟩ := hsim.exists_prog ht'
    obtain ⟨status, k, rfl⟩ := closeTest_of_counted hconf
    rw [hmine'] at hp
    exact hnone _ hp status k rfl

/--
In every run where no task of the test puts its row back on `running` when the test is closed or
about to be, whichever statements fail and however the tasks interleave: once the test is closed it
stays closed, and nothing is outstanding from then on.
-/
theorem settled_of_guarded (hqueued : Queued queue w.db) (hinit : Settled testId w.db)
    (hrun : system.Run good adapters queue (Guard testId) (system.init w) s)
    (hrun' : system.Run good adapters queue (Guard testId) s s')
    (hclosed : s.world.db.TestClosed testId)
    : s'.world.db.TestClosed testId ∧ s'.world.db.NothingOutstanding testId := by
  have hinv : Inv queue testId False ⟨w, []⟩ := ⟨hqueued, by simp, hinit, by simp, False.elim⟩
  obtain ⟨a, hsim, ha⟩ := system.run_invariant (fun _ _ _ _ => inv_step)
    (system.simulates_init w) hinv hrun
  have ha' : Inv queue testId True a :=
    ⟨ha.toQueued, ha.threads_mem, ha.closed, ha.counted, fun _ => hsim.world ▸ hclosed⟩
  obtain ⟨a', hsim', ha'⟩ := system.run_invariant (fun _ _ _ _ => inv_step) hsim ha' hrun'
  rw [hsim'.world]
  exact ⟨ha'.stays trivial, ha'.closed (ha'.stays trivial)⟩

theorem labSettled : Settled 1 probe.labWorld.db := by
  rintro ⟨test, htest, hclosed⟩
  cases htest
  cases hclosed

theorem settled_of_guarded_lab
    : ∃ s : system.State tick.labSerde,
        system.Run Env.Faultless probe.labRegistry [closeOut.labEntry] (Guard 1)
            (system.init probe.labWorld) s
          ∧ s.world.db.TestClosed 1 ∧ s.world.db.NothingOutstanding 1 := by
  let task := tick.task tick.labSerde probe.labRegistry closeOut.labEntry.delivery
  have hspawn : system.Run Env.Faultless probe.labRegistry [closeOut.labEntry] (Guard 1)
      (system.init probe.labWorld) ⟨probe.labWorld, [(closeOut.labEntry, task)]⟩ :=
    .single ⟨.spawn closeOut.labEntry, trivial, .spawn closeOut.labEntry ⟨by simp, by decide⟩⟩
  obtain ⟨s, hs⟩ : ∃ s : system.State tick.labSerde, s
      = ⟨(task.stop probe.labEnv.exec 12 probe.labWorld).2,
          [(closeOut.labEntry, (task.stop probe.labEnv.exec 12 probe.labWorld).1)]⟩ := ⟨_, rfl⟩
  have htask : system.Run Env.Faultless probe.labRegistry [closeOut.labEntry] (Guard 1)
      ⟨probe.labWorld, [(closeOut.labEntry, task)]⟩ s := by
    rw [hs]
    apply system.run_stop probe.labEnv_faultless
    dsimp only [task]
    rw [closeOut.labEntry.task_eq]
    intro m hm
    by_cases hone : m = 1
    . subst hone
      refine fun _ => ⟨?_, ?_⟩
      . rintro ⟨test, htest, hclosed⟩
        cases htest
        cases hclosed
      . rintro t ht status k heq
        cases List.mem_singleton.mp ht
        cases heq
    . interval_cases m
      all_goals first | exact absurd rfl hone | exact trivial
  have hclosed : s.world.db.TestClosed 1 := by
    rw [hs]
    dsimp only [task]
    rw [closeOut.labEntry.task_eq]
    exact ⟨_, rfl, rfl⟩
  have hrun := hspawn.trans htask
  exact ⟨s, hrun, settled_of_guarded closeOut.labCreated.toQueued labSettled hrun .refl hclosed⟩

/--
The lab's job is delivered twice. One task handles it and closes the test before the other one has
started, which then puts the only subtask of the closed test back on `running`.
-/
theorem not_settled_of_redelivery
    : ∃ s : system.State tick.labSerde,
        system.Reachable Env.Faultless probe.labRegistry [closeOut.labEntry] probe.labWorld s
          ∧ ¬ Settled 1 s.world.db := by
  let task := tick.task tick.labSerde probe.labRegistry closeOut.labEntry.delivery
  have hinit : system.Reachable Env.Faultless probe.labRegistry [closeOut.labEntry] probe.labWorld
      (system.init probe.labWorld) := .refl
  have hfirst := system.reachable_stop hinit probe.labEnv_faultless
    (⟨by simp, by decide⟩ : system.Deliverable _ _ closeOut.labEntry) 0
  have hsecond := system.reachable_run hfirst probe.labEnv_faultless
    (⟨by simp, by decide⟩ : system.Deliverable _ _ closeOut.labEntry)
  have hback := hsecond.trans (Pool.steps_stop (fun op w => ⟨probe.labEnv, probe.labEnv_faultless, rfl⟩)
    closeOut.labEntry 2 task _ [(closeOut.labEntry, .pure ())] [])
  refine ⟨_, hback, ?_⟩
  dsimp only [task]
  rw [closeOut.labEntry.task_eq]
  intro h
  have hrow := h ⟨_, rfl, rfl⟩ _ (List.mem_singleton.mpr rfl)
  cases hrow

end outstanding

end PqCas
