import PqCas.Api.Handover
import PqCas.Worker.CloseOut

/-!
Whether an accepted request leaves anything to do for the workers. Only they take a test out of
`pending`, and only when they handle a job of it.
-/

namespace PqCas

def Op.writesTest (op : Op) (testId : Uuid) : Bool :=
  match op with
  | .markTestRunning id | .closeTest id _ => id = testId
  | _ => false

section Frame

variable {testId : Uuid}

theorem Env.statement_test? {fault : Option Err} {w : World} {db : Except Err Db}
    (h : ∀ db', db = .ok db' → db'.test? testId = w.db.test? testId)
    : (Env.statement fault w db).2.db.test? testId = w.db.test? testId := by
  unfold Env.statement
  split
  . rfl
  . rfl
  . exact h _ rfl

theorem Env.exec_test? (env : Env) {op : Op} (hop : op.writesTest testId = false) (w : World)
    : (env.exec op w).2.db.test? testId = w.db.test? testId := by
  cases op with
  | markTestRunning id =>
    have hne : id ≠ testId := by simpa [Op.writesTest] using hop
    apply Env.statement_test?
    rintro _ ⟨⟩
    rw [Db.test?_markTestRunning]
    cases hrow : w.db.test? testId with
    | none => rfl
    | some row =>
      have hid : row.id = testId := by simpa [Db.test?] using List.find?_some hrow
      simp [hid, hne.symm]
  | closeTest id status =>
    have hne : id ≠ testId := by simpa [Op.writesTest] using hop
    apply Env.statement_test?
    rintro _ ⟨⟩
    exact Db.test?_closeTest_of_ne _ _ _ hne.symm status
  | markSubtaskRunning id | markSubtaskError id reason | startKemRun id | finishKemRun id status =>
    apply Env.statement_test?
    rintro _ ⟨⟩
    rfl
  | saveReport id result response =>
    apply Env.statement_test?
    intro db' h
    unfold Db.test?
    rw [(Db.of_saveReport h).1]
  | insertKemLog line =>
    apply Env.statement_test?
    intro db' h
    unfold Db.insertKemLog at h
    split at h
    . cases h
    . split at h <;> cases h
      rfl
  | upsertKemCell cell =>
    apply Env.statement_test?
    intro db' h
    unfold Db.upsertKemCell at h
    split at h <;> cases h
    rfl
  | countSubtasks | publish | ack =>
    dsimp only [Env.exec]
    split <;> rfl
  | utcNow | cachedCapabilities | fetchCapabilities | cacheCapabilities | postProbe => rfl

theorem Next.writesTest_of_ne {adapters : AdapterRegistry} {delivery : Delivery} {job : ProbeJob}
    {s s' : Phase} {op : Op} {r : op.Reply} (h : Next adapters delivery job s op r s')
    (hne : job.testId ≠ testId) : op.writesTest testId = false := by
  cases h with
  | openTest | openTestFails | close | closeFails => simpa [Op.writesTest] using hne
  | call hop =>
    cases op with
    | postProbe | cachedCapabilities | fetchCapabilities | cacheCapabilities => rfl
    | _ => cases hop
  | _ => rfl

variable {serde : Serde} {adapters : AdapterRegistry} {queue : List (ProbeEntry serde)} {w : World}

theorem system.test?_of_no_job {good : Env → Prop} {s : system.State serde}
    (hnone : ∀ entry ∈ queue, entry.job.testId ≠ testId)
    (hreach : system.Reachable good adapters queue w s)
    : s.world.db.test? testId = w.db.test? testId := by
  let Kept (a : system.PhaseState serde) : Prop :=
    (∀ t ∈ a.threads, t.1 ∈ queue) ∧ a.world.db.test? testId = w.db.test? testId
  have hinit : Kept ⟨w, []⟩ := ⟨by simp, rfl⟩
  have hstep : ∀ a l a', Kept a → system.PhaseStep good adapters queue a l a' → Kept a' := by
    rintro a l a' ⟨hthreads, htest⟩ hstep
    cases hstep with
    | spawn t ht => exact ⟨List.forall_mem_cons.mpr ⟨ht.1, hthreads⟩, htest⟩
    | @perform w₁ w₂ ts₁ ts₂ t op s s' r hexec hs =>
      obtain ⟨env, -, hexec⟩ := hexec
      refine ⟨Pool.forall_replace hthreads id, ?_⟩
      have hkept := env.exec_test? (hs.writesTest_of_ne (hnone t (hthreads (t, s) (by simp)))) w₁
      rw [hexec] at hkept
      exact hkept.trans htest
  obtain ⟨a, hsim, -, htest⟩ := system.reachable_invariant hinit hstep hreach
  rw [hsim.world]
  exact htest

theorem system.exists_started {entry : ProbeEntry serde} {test : TestRow} (hentry : entry ∈ queue)
    (hacked : (entry.delivery.stream, entry.delivery.id) ∉ w.acked)
    (htest : w.db.test? entry.job.testId = some test)
    : ∃ s row, system.Reachable Env.Faultless adapters queue w s
        ∧ s.world.db.test? entry.job.testId = some row ∧ row.status ≠ .pending := by
  let env : Env :=
    {
      now := 0
      fetchCapabilities := fun _ _ => .error "connection refused"
      postProbe := fun _ _ _ => .unreachable "connection refused"
    }
  have hinit : system.Reachable Env.Faultless adapters queue w (system.init w) := .refl
  have henv : env.Faultless := fun _ => rfl
  have hreach := system.reachable_stop hinit henv ⟨hentry, hacked⟩ 1
  refine ⟨_, if test.id = entry.job.testId && test.status == .pending then test.start 0 else test, hreach,
    ?_, ?_⟩
  . rw [entry.task_eq]
    change (w.db.markTestRunning 0 entry.job.testId).test? entry.job.testId = _
    rw [Db.test?_markTestRunning, htest]
    rfl
  . have hid : test.id = entry.job.testId := by simpa [Db.test?] using List.find?_some htest
    by_cases hpending : test.status = .pending
    . simp [hid, hpending, TestRow.start]
    . simp [hpending]

end Frame

namespace api

def Names (selection : List String) : Prop :=
  ∃ name ∈ selection, Text.trim name ≠ ""

theorem dedupe_ne_nil_iff {selection : List String} : dedupe selection ≠ [] ↔ Names selection := by
  unfold Names dedupe
  rw [ne_eq, List.eq_nil_iff_forall_not_mem, not_forall]
  simp only [not_not, Grid.mem_firsts, List.mem_filter, List.mem_map, decide_eq_true_eq]
  constructor
  . rintro ⟨_, ⟨name, hname, rfl⟩, hblank⟩
    exact ⟨name, hname, hblank⟩
  . rintro ⟨name, hname, hblank⟩
    exact ⟨Text.trim name, ⟨name, hname, rfl⟩, hblank⟩

section Work

variable {serde : Serde} {env : CreateEnv} {config : Config} {body : NewTest} {s s' : State}
variable {test : Test} {queue : List (ProbeEntry serde)} {adapters : AdapterRegistry} {w : World}

structure HasWork (queue : List (ProbeEntry serde)) (adapters : AdapterRegistry) (w : World)
    (s : State) (test : Test) (s' : State) : Prop where
  subtask : s'.db.subtasksOf test.id ≠ []
  job : ∃ jobs, s'.probeStream = s.probeStream ++ jobs ∧ jobs ≠ [] ∧ ∀ job ∈ jobs, job.testId = test.id
  starts : ∃ st row, system.Reachable Env.Faultless adapters queue w st
    ∧ st.world.db.test? test.id = some row ∧ row.status ≠ .pending

/--
An accepted request leaves something to do exactly when each of its two selections names something.
When one of them is blank throughout, the test stays in `pending` whatever the workers do.
-/
theorem createTest_hasWork_iff (hs : s.Lawful) (hfed : s.Fed)
    (hok : (createTest env config body).eval s = (.ok test, s'))
    (hqueue : queue.map ProbeEntry.job = s'.probeStream) (hdb : w.db = s'.db)
    (hacked : ∀ entry ∈ queue, (entry.delivery.stream, entry.delivery.id) ∉ w.acked)
    : (HasWork queue adapters w s test s' ↔ Names body.groups ∧ Names body.sigAlgs)
        ∧
      (¬ (Names body.groups ∧ Names body.sigAlgs) → ∀ good st,
        system.Reachable good adapters queue w st →
          ∃ row, st.world.db.test? test.id = some row ∧ row.status = .pending) := by
  obtain ⟨groups, sigAlgs, haccepted, rfl, rfl⟩ := createTest_ok hok
  obtain ⟨hgroups, hsigAlgs, -⟩ := validate_ok haccepted.axes
  rw [← dedupe_ne_nil_iff, ← dedupe_ne_nil_iff, ← hgroups, ← hsigAlgs]
  have hof : (committed env body s groups sigAlgs (createdJobs env config body groups sigAlgs)).db.subtasksOf
      (testRow env body groups sigAlgs).id = createdRows env body groups sigAlgs :=
    subtasksOf_committed hs haccepted
  have htest : w.db.test? (testRow env body groups sigAlgs).id
      = some (testRow env body groups sigAlgs).toTestRow := by
    rw [hdb]
    exact test?_committed haccepted
  have hjobs : ∀ job ∈ createdJobs env config body groups sigAlgs, job.testId = env.testId := by
    intro job hjob
    obtain ⟨row, hrow, -, htestId⟩ := jobs_of_createdJobs hjob
    rw [← htestId]
    exact testId_of_mem_createdRows hrow
  have hlength : (createdJobs env config body groups sigAlgs).length = groups.length * sigAlgs.length := by
    rw [createdJobs_perm.length_eq, List.length_map, length_createdRows]
  constructor
  . constructor
    . intro hwork
      have hrows := hwork.subtask
      rw [hof, ← List.length_pos_iff, length_createdRows] at hrows
      exact ⟨List.length_pos_iff.mp (Nat.pos_of_mul_pos_right hrows),
        List.length_pos_iff.mp (Nat.pos_of_mul_pos_left hrows)⟩
    . rintro ⟨hsome, hsome'⟩
      have hpos : 0 < groups.length * sigAlgs.length :=
        Nat.mul_pos (List.length_pos_iff.mpr hsome) (List.length_pos_iff.mpr hsome')
      have hqueued : createdJobs env config body groups sigAlgs ≠ [] :=
        List.length_pos_iff.mp (hlength ▸ hpos)
      constructor
      . rw [hof, ← List.length_pos_iff, length_createdRows]
        exact hpos
      . exact ⟨_, rfl, hqueued, hjobs⟩
      . obtain ⟨job, hjob⟩ := List.exists_mem_of_ne_nil _ hqueued
        have hmem : job ∈ queue.map ProbeEntry.job := by
          rw [hqueue]
          exact List.mem_append_right _ hjob
        obtain ⟨entry, hentry, rfl⟩ := List.mem_map.mp hmem
        have hid : entry.job.testId = (testRow env body groups sigAlgs).id := hjobs _ hjob
        rw [← hid] at htest ⊢
        exact system.exists_started hentry (hacked entry hentry) htest
  . intro hblank good st hreach
    have hnil : createdJobs env config body groups sigAlgs = [] := by
      rw [← List.length_eq_zero_iff, hlength, Nat.mul_eq_zero, List.length_eq_zero_iff,
        List.length_eq_zero_iff]
      by_contra hnot
      rw [not_or] at hnot
      exact hblank hnot
    have hnone : ∀ entry ∈ queue, entry.job.testId ≠ (testRow env body groups sigAlgs).id := by
      intro entry hentry hid
      have hmem : entry.job ∈ s.probeStream := by
        have : entry.job ∈ queue.map ProbeEntry.job := List.mem_map_of_mem hentry
        rw [hqueue] at this
        simpa [committed, hnil] using this
      -- a job that was queued before is for a test that was there before
      obtain ⟨row, hrow, -, hrowtest⟩ := hfed.row_of_job _ hmem
      apply haccepted.fresh
      have hreference := hs.references row hrow
      rwa [hrowtest, hid] at hreference
    rw [system.test?_of_no_job hnone hreach]
    exact ⟨_, htest, rfl⟩

end Work

namespace workLab

def body : NewTest :=
  { labBody with
    groups := [" X25519MLKEM768"]
    sigAlgs := ["mldsa65", ""] }

def blankBody : NewTest :=
  { labBody with groups := ["  "] }

def after (body : NewTest) : State :=
  ((createTest labCreateEnv labConfig body).eval labState).2

def test (groups sigAlgs : List String) : Test :=
  testRow labCreateEnv labBody groups sigAlgs

theorem labState_fed : labState.Fed := by
  constructor
  . simp [labState]
  . simp [labState]

theorem createTest_hasWork_lab
    : HasWork [closeOut.labEntry] probe.labRegistry { db := (after body).db } labState
        (test ["X25519MLKEM768"] ["mldsa65"]) (after body) := by
  have hok : (createTest labCreateEnv labConfig body).eval labState
      = (.ok (test ["X25519MLKEM768"] ["mldsa65"]), after body) := rfl
  apply (createTest_hasWork_iff labState_lawful labState_fed hok rfl rfl (by simp)).1.mpr
  exact ⟨⟨_, List.mem_cons_self, by decide⟩, ⟨_, List.mem_cons_self, by decide⟩⟩

theorem createTest_without_work
    : (createTest labCreateEnv labConfig blankBody).eval labState
          = (.ok (test [] ["mldsa65", "mldsa44"]), after blankBody)
        ∧ ¬ HasWork ([] : List (ProbeEntry tick.labSerde)) probe.labRegistry { db := (after blankBody).db }
            labState (test [] ["mldsa65", "mldsa44"]) (after blankBody) := by
  refine ⟨rfl, ?_⟩
  intro h
  exact h.subtask rfl

end workLab

end api

end PqCas
