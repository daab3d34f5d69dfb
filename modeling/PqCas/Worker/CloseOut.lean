import PqCas.Worker.System

/-!
The close-out of a test by interleaved handlers when no step fails. Each of them counts and then
updates without a lock; the last one to write a row still sees every other row settled.
-/

namespace PqCas

namespace Phase

def early (s : Phase) : Bool :=
  s == .received || s == .opened

/--
The task has settled its row and will still ask whether it was the last one, or has asked and will
close the test.
-/
def owes (s : Phase) : Bool :=
  match s with
  | .saved | .announced | .counted _ => true
  | _ => false

def carries (s : Phase) : Option SubtaskCounts :=
  match s with
  | .counted c | .closing c => some c
  | _ => none

end Phase

namespace closeOut

variable {serde : Serde} (adapters : AdapterRegistry) (queue : List (ProbeEntry serde)) (testId : Uuid)

def AllDisabled : Prop :=
  ∀ entry ∈ queue, entry.job.testId = testId → adapters.isConfigured entry.job.adapter = false

def RowOk (threads : List (ProbeEntry serde × Phase)) (row : SubtaskRow) : Prop :=
  match row.execStatus with
  | .queued => ∀ t ∈ threads, t.1.job.subtaskId = row.id → t.2.early = true
  | .running => ∃ t ∈ threads, t.1.job.subtaskId = row.id ∧ t.2 = .running
  | .finished =>
    (∃ entry ∈ queue, entry.job.subtaskId = row.id
      ∧ adapters.isConfigured entry.job.adapter = true)
    ∧ row.resultStatus ∈ [ResultStatus.passed, .failed, .unsupported]
  | .error =>
    (∃ entry ∈ queue, entry.job.subtaskId = row.id
      ∧ adapters.isConfigured entry.job.adapter = false)
    ∧ row.resultStatus = .failed

/--
Counts of a complete test: every subtask is counted once, and the status they lead to is the one
that the configuration determines.
-/
structure CountsOk (n : Nat) (c : SubtaskCounts) : Prop where
  sum : c.passed + c.failed = n
  status : c.closeOutStatus = .failed ↔ AllDisabled adapters queue testId

structure Inv (n : Nat) (a : system.PhaseState serde) : Prop extends Queued queue a.world.db where
  job_of_row : ∀ row ∈ a.world.db.subtasksOf testId, ∃ entry ∈ queue, entry.job.subtaskId = row.id
  count : (a.world.db.subtasksOf testId).length = n
  test : ∃ test, a.world.db.test? testId = some test
  threads_mem : ∀ t ∈ a.threads, t.1 ∈ queue
  rows : ∀ row ∈ a.world.db.subtasksOf testId, RowOk adapters queue a.threads row
  carried : ∀ t ∈ a.threads, t.1.job.testId = testId → ∀ c, t.2.carries = some c →
    CountsOk adapters queue testId n c
  status : ∀ test, a.world.db.test? testId = some test → test.status.closed = true →
    (test.status = .failed ↔ AllDisabled adapters queue testId)
  owed : (∀ row ∈ a.world.db.subtasksOf testId, row.execStatus.outstanding = false) →
    ¬ a.world.db.TestClosed testId → ∃ t ∈ a.threads, t.1.job.testId = testId ∧ t.2.owes = true
  events : ∀ channel passed failed,
    (channel, Event.testFinished testId passed failed) ∈ a.world.published →
    passed.toNat + failed.toNat = n

variable {adapters queue testId} {n : Nat}

theorem inv_init {w : World} (h : Created queue w.db testId)
    (hpub : ∀ channel passed failed, (channel, Event.testFinished testId passed failed) ∉ w.published)
    : Inv adapters queue testId (w.db.subtasksOf testId).length ⟨w, []⟩ := by
  obtain ⟨test, htest, hpending⟩ := h.pending
  constructor
  case toQueued => exact h.toQueued
  case job_of_row => exact h.job_of_row
  case count => rfl
  case test => exact ⟨test, htest⟩
  case threads_mem => simp
  case carried => simp
  case events => exact fun channel passed failed hevent => absurd hevent (hpub channel passed failed)
  case rows =>
    intro row hrow
    unfold RowOk
    rw [h.queued row hrow]
    simp
  case status =>
    intro test' htest' hclosed
    rw [htest] at htest'
    cases htest'
    rw [hpending] at hclosed
    cases hclosed
  case owed =>
    intro hall _
    obtain ⟨row, hrow⟩ := List.exists_mem_of_ne_nil _ h.nonempty
    have := hall row hrow
    rw [h.queued row hrow] at this
    cases this

section Counts

variable {rows : List SubtaskRow} {threads : List (ProbeEntry serde × Phase)}

theorem rowOk_terminal {row : SubtaskRow} (h : RowOk adapters queue threads row)
    (hterm : row.execStatus.outstanding = false)
    : row.resultStatus ∈ [ResultStatus.passed, .failed, .unsupported]
      ∧ ∃ entry ∈ queue, entry.job.subtaskId = row.id
        ∧ (row.execStatus = .error ↔ adapters.isConfigured entry.job.adapter = false) := by
  unfold RowOk at h
  cases hexec : row.execStatus with
  | queued => simp [hexec, ExecStatus.outstanding] at hterm
  | running => simp [hexec, ExecStatus.outstanding] at hterm
  | finished =>
    rw [hexec] at h
    obtain ⟨⟨entry, hentry, hid, hconf⟩, hresult⟩ := h
    exact ⟨hresult, entry, hentry, hid, by simp [hconf]⟩
  | error =>
    rw [hexec] at h
    obtain ⟨⟨entry, hentry, hid, hconf⟩, hresult⟩ := h
    exact ⟨by simp [hresult], entry, hentry, hid, by simp [hconf]⟩

variable {a : system.PhaseState serde}

theorem allDisabled_iff (h : Inv adapters queue testId n a)
    (hterm : ∀ row ∈ a.world.db.subtasksOf testId, row.execStatus.outstanding = false)
    : AllDisabled adapters queue testId
        ↔
      ∀ row ∈ a.world.db.subtasksOf testId, row.execStatus = .error := by
  constructor
  . intro hdis row hrow
    obtain ⟨-, entry, hentry, hid, herror⟩ := rowOk_terminal (h.rows row hrow) (hterm row hrow)
    rw [herror]
    apply hdis entry hentry
    rw [← h.testId_eq hentry (List.mem_of_mem_filter hrow) hid]
    simpa using List.of_mem_filter hrow
  . intro hall entry hentry htest
    obtain ⟨row, hrow, hid, hrowtest⟩ := h.row_of_job entry hentry
    have hmem : row ∈ a.world.db.subtasksOf testId :=
      List.mem_filter.mpr ⟨hrow, by simpa using hrowtest.trans htest⟩
    obtain ⟨-, entry', hentry', hid', herror⟩ := rowOk_terminal (h.rows row hmem) (hterm row hmem)
    rw [h.job_unique entry hentry entry' hentry' (hid.symm.trans hid'.symm)]
    exact herror.mp (hall row hmem)

theorem countsOk_of_outstanding (hn : 0 < n) (h : Inv adapters queue testId n a)
    (hzero : (a.world.db.countSubtasks testId).outstanding = 0)
    : CountsOk adapters queue testId n (a.world.db.countSubtasks testId) := by
  rw [Db.outstanding_eq_zero_iff] at hzero
  constructor
  . rw [← h.count]
    exact SubtaskCounts.passed_add_failed (fun row hrow => (rowOk_terminal (h.rows row hrow) (hzero row hrow)).1)
  . rw [allDisabled_iff h hzero]
    have hpos : 0 < (a.world.db.subtasksOf testId).length := h.count ▸ hn
    have herr : (a.world.db.countSubtasks testId).errored = (a.world.db.countSubtasks testId).total
        ↔ ∀ row ∈ a.world.db.subtasksOf testId, row.execStatus = .error := by
      unfold Db.countSubtasks SubtaskCounts.ofRows
      simp [List.countP_eq_length]
    have htotal : 0 < (a.world.db.countSubtasks testId).total := hpos
    unfold SubtaskCounts.closeOutStatus
    simp only [herr, htotal, and_true]
    split <;> simp_all

end Counts

section Steps

variable {w w' : World} {ts₁ ts₂ : List (ProbeEntry serde × Phase)} {t : ProbeEntry serde}
variable {s s' : Phase}

theorem inv_frame (h : Inv adapters queue testId n ⟨w, ts₁ ++ (t, s) :: ts₂⟩)
    (hsub : w'.db.subtasks = w.db.subtasks)
    (hearly : s.early = true → s'.early = true) (hrunning : s = .running → s' = .running)
    (hcarry : t.job.testId = testId → ∀ c, s'.carries = some c → CountsOk adapters queue testId n c)
    (htest : ∃ test, w'.db.test? testId = some test)
    (hstatus : ∀ test, w'.db.test? testId = some test → test.status.closed = true →
      (test.status = .failed ↔ AllDisabled adapters queue testId))
    (hclosed : w.db.TestClosed testId → w'.db.TestClosed testId)
    (howed : t.job.testId = testId → s.owes = true →
      (∀ row ∈ w.db.subtasksOf testId, row.execStatus.outstanding = false) →
      ¬ w'.db.TestClosed testId → s'.owes = true)
    (hevents : ∀ channel passed failed,
      (channel, Event.testFinished testId passed failed) ∈ w'.published →
      passed.toNat + failed.toNat = n)
    : Inv adapters queue testId n ⟨w', ts₁ ++ (t, s') :: ts₂⟩ := by
  have hof : w'.db.subtasksOf testId = w.db.subtasksOf testId := by
    unfold Db.subtasksOf
    rw [hsub]
  constructor
  case toQueued =>
    constructor
    . simpa [hsub] using h.ids_nodup
    . simpa [hsub] using h.row_of_job
    . exact h.job_unique
  case job_of_row => simpa [hof] using h.job_of_row
  case count => simpa [hof] using h.count
  case test => exact htest
  case status => exact hstatus
  case events => exact hevents
  case threads_mem => exact Pool.forall_replace h.threads_mem id
  case carried => exact Pool.forall_replace h.carried (fun _ => hcarry)
  case rows =>
    intro row hrow
    have hok := h.rows row (hof ▸ hrow)
    unfold RowOk at hok ⊢
    split at hok
    . exact Pool.forall_replace hok (fun hs hid => hearly (hs hid))
    . exact Pool.exists_replace hok (fun ⟨hid, hs⟩ => ⟨hid, hrunning hs⟩)
    . exact hok
    . exact hok
  case owed =>
    intro hall hnot
    rw [hof] at hall
    have howes := h.owed hall (fun hc => hnot (hclosed hc))
    exact Pool.exists_replace howes (fun ⟨hid, hs⟩ => ⟨hid, howed hid hs hall hnot⟩)

theorem inv_idle (h : Inv adapters queue testId n ⟨w, ts₁ ++ (t, s) :: ts₂⟩) (hdb : w'.db = w.db)
    (hearly : s.early = true → s'.early = true) (hrunning : s = .running → s' = .running)
    (hcarry : t.job.testId = testId → ∀ c, s'.carries = some c → CountsOk adapters queue testId n c)
    (howed : t.job.testId = testId → s.owes = true →
      (∀ row ∈ w.db.subtasksOf testId, row.execStatus.outstanding = false) → s'.owes = true)
    (hevents : ∀ channel passed failed,
      (channel, Event.testFinished testId passed failed) ∈ w'.published →
      passed.toNat + failed.toNat = n)
    : Inv adapters queue testId n ⟨w', ts₁ ++ (t, s') :: ts₂⟩ := by
  apply inv_frame h (by rw [hdb]) hearly hrunning hcarry
  case htest => exact hdb ▸ h.test
  case hstatus => exact hdb ▸ h.status
  case hclosed => exact hdb ▸ id
  case howed => exact fun hmine howes hall _ => howed hmine howes hall
  case hevents => exact hevents

theorem rowOk_of_ne {row : SubtaskRow} (h : RowOk adapters queue (ts₁ ++ (t, s) :: ts₂) row)
    (hne : row.id ≠ t.job.subtaskId) : RowOk adapters queue (ts₁ ++ (t, s') :: ts₂) row := by
  unfold RowOk at h ⊢
  split at h
  . exact Pool.forall_replace h (fun _ hid => absurd hid.symm hne)
  . exact Pool.exists_replace h (fun ⟨hid, _⟩ => absurd hid.symm hne)
  . exact h
  . exact h

theorem inv_write (h : Inv adapters queue testId n ⟨w, ts₁ ++ (t, s) :: ts₂⟩)
    {f : SubtaskRow → SubtaskRow} (hid : ∀ row, (f row).id = row.id)
    (htestId : ∀ row, (f row).testId = row.testId)
    (hsub : w'.db.subtasks = Table.updateWhere w.db.subtasks (fun row => row.id = t.job.subtaskId) f)
    (htests : w'.db.tests = w.db.tests) (hpub : w'.published = w.published)
    (hcarry : s'.carries = none)
    (hrow : ∀ row : SubtaskRow, row.id = t.job.subtaskId →
      RowOk adapters queue (ts₁ ++ (t, s') :: ts₂) (f row))
    (howes : s'.owes = true ∨ ∀ row, (f row).execStatus.outstanding = true)
    : Inv adapters queue testId n ⟨w', ts₁ ++ (t, s') :: ts₂⟩ := by
  have hof : w'.db.subtasksOf testId
      = Table.updateWhere (w.db.subtasksOf testId) (fun row => row.id = t.job.subtaskId) f := by
    unfold Db.subtasksOf
    rw [hsub]
    apply Table.filter_updateWhere
    simp [htestId]
  have htest? : w'.db.test? testId = w.db.test? testId := by
    unfold Db.test?
    rw [htests]
  constructor
  case toQueued => exact h.toQueued.write hid htestId hsub
  case job_of_row =>
    intro row hmem
    rw [hof, Table.mem_updateWhere] at hmem
    rcases hmem with ⟨old, hold, -, rfl⟩ | ⟨hmem, -⟩
    . rw [hid]
      exact h.job_of_row old hold
    . exact h.job_of_row row hmem
  case count =>
    rw [hof, Table.length_updateWhere]
    exact h.count
  case test => exact htest? ▸ h.test
  case status =>
    rw [htest?]
    exact h.status
  case events =>
    rw [hpub]
    exact h.events
  case threads_mem => exact Pool.forall_replace h.threads_mem id
  case carried =>
    apply Pool.forall_replace h.carried
    intro _ _ c hc
    rw [hcarry] at hc
    cases hc
  case rows =>
    intro row hmem
    rw [hof, Table.mem_updateWhere] at hmem
    rcases hmem with ⟨old, hold, hwritten, rfl⟩ | ⟨hmem, hne⟩
    . exact hrow old (by simpa using hwritten)
    . exact rowOk_of_ne (h.rows row hmem) (by simpa using hne)
  case owed =>
    intro hall hnot
    rw [hof] at hall
    have hmem : t ∈ queue := h.threads_mem (t, s) (by simp)
    by_cases hmine : t.job.testId = testId
    . rcases howes with howes | hout
      . exact ⟨(t, s'), by simp, hmine, howes⟩
      . obtain ⟨row, hrowof, hrowid⟩ := h.exists_row hmem
        rw [hmine] at hrowof
        have hterm := hall (f row)
          (Table.mem_updateWhere.mpr (.inl ⟨row, hrowof, by simpa using hrowid, rfl⟩))
        rw [hout row] at hterm
        cases hterm
    . -- The row that was written belongs to another test.
      rw [h.updateWhere_of_ne hmem hmine] at hall
      have howed := h.owed hall (fun ⟨test, htest, hclosed⟩ => hnot ⟨test, htest?.trans htest, hclosed⟩)
      exact Pool.exists_replace howed (fun ⟨hmine', _⟩ => absurd hmine' hmine)

theorem inv_spawn (h : Inv adapters queue testId n ⟨w, ts₁⟩) (ht : t ∈ queue)
    : Inv adapters queue testId n ⟨w, (t, .received) :: ts₁⟩ := by
  constructor
  case toQueued => exact h.toQueued
  case job_of_row => exact h.job_of_row
  case count => exact h.count
  case test => exact h.test
  case status => exact h.status
  case events => exact h.events
  case threads_mem => exact List.forall_mem_cons.mpr ⟨ht, h.threads_mem⟩
  case carried =>
    refine List.forall_mem_cons.mpr ⟨?_, h.carried⟩
    intro _ c hc
    cases hc
  case rows =>
    intro row hrow
    have hok := h.rows row hrow
    unfold RowOk at hok ⊢
    split at hok
    . exact List.forall_mem_cons.mpr ⟨fun _ => rfl, hok⟩
    . obtain ⟨t', ht', hs⟩ := hok
      exact ⟨t', List.mem_cons_of_mem _ ht', hs⟩
    . exact hok
    . exact hok
  case owed =>
    intro hall hnot
    obtain ⟨t', ht', hs⟩ := h.owed hall hnot
    exact ⟨t', List.mem_cons_of_mem _ ht', hs⟩

theorem inv_open {now : Time} (h : Inv adapters queue testId n ⟨w, ts₁ ++ (t, .received) :: ts₂⟩)
    (hdb : w'.db = w.db.markTestRunning now t.job.testId) (hpub : w'.published = w.published)
    : Inv adapters queue testId n ⟨w', ts₁ ++ (t, .opened) :: ts₂⟩ := by
  apply inv_frame h (by rw [hdb]; rfl) (fun _ => rfl) (by simp)
  case hcarry =>
    intro _ c hc
    cases hc
  case htest =>
    obtain ⟨test, htest⟩ := h.test
    rw [hdb, Db.test?_markTestRunning, htest]
    exact ⟨_, rfl⟩
  case hstatus =>
    intro test htest hclosed
    rw [hdb, Db.test?_markTestRunning_of_closed _ _ _ hclosed] at htest
    exact h.status test htest hclosed
  case hclosed =>
    rw [hdb, Db.testClosed_markTestRunning]
    exact id
  case howed =>
    intro _ howes
    cases howes
  case hevents =>
    rw [hpub]
    exact h.events

theorem inv_start {now : Time} (h : Inv adapters queue testId n ⟨w, ts₁ ++ (t, .opened) :: ts₂⟩)
    (hdb : w'.db = w.db.markSubtaskRunning now t.job.subtaskId) (hpub : w'.published = w.published)
    : Inv adapters queue testId n ⟨w', ts₁ ++ (t, .running) :: ts₂⟩ := by
  apply inv_write h (f := .start now) (fun _ => rfl) (fun _ => rfl)
  case hsub =>
    rw [hdb]
    rfl
  case htests =>
    rw [hdb]
    rfl
  case hpub => exact hpub
  case hcarry => rfl
  case hrow =>
    intro row hid
    exact ⟨(t, .running), by simp, hid.symm, rfl⟩
  case howes => exact .inr (fun _ => rfl)

theorem inv_call (h : Inv adapters queue testId n ⟨w, ts₁ ++ (t, .running) :: ts₂⟩)
    (hdb : w'.db = w.db) (hpub : w'.published = w.published)
    : Inv adapters queue testId n ⟨w', ts₁ ++ (t, .running) :: ts₂⟩ := by
  apply inv_idle h hdb id id
  case hcarry =>
    intro _ c hc
    cases hc
  case howed => exact fun _ howes _ => howes
  case hevents =>
    rw [hpub]
    exact h.events

theorem inv_save {now : Time} {result : ResultStatus} {response : ProbeResponse}
    (h : Inv adapters queue testId n ⟨w, ts₁ ++ (t, .running) :: ts₂⟩)
    (hconf : adapters.isConfigured t.job.adapter = true)
    (hresult : result ∈ [ResultStatus.passed, .failed, .unsupported])
    (hsave : w.db.saveReport now t.job.subtaskId result response = .ok w'.db)
    (hpub : w'.published = w.published)
    : Inv adapters queue testId n ⟨w', ts₁ ++ (t, .saved) :: ts₂⟩ := by
  have hmem : t ∈ queue := h.threads_mem (t, .running) (by simp)
  obtain ⟨db', hsave', htests, hsub⟩ := h.saveReport_eq hmem now result response
  cases hsave.symm.trans hsave'
  apply inv_write h (f := .finish now result response) (fun _ => rfl) (fun _ => rfl) hsub htests hpub rfl
  case hrow => exact fun row hid => ⟨⟨t, hmem, hid.symm, hconf⟩, hresult⟩
  case howes => exact .inl rfl

theorem inv_fail {now : Time} {reason : String}
    (h : Inv adapters queue testId n ⟨w, ts₁ ++ (t, .running) :: ts₂⟩)
    (hconf : adapters.isConfigured t.job.adapter = false)
    (hdb : w'.db = w.db.markSubtaskError now t.job.subtaskId reason) (hpub : w'.published = w.published)
    : Inv adapters queue testId n ⟨w', ts₁ ++ (t, .saved) :: ts₂⟩ := by
  have hmem : t ∈ queue := h.threads_mem (t, .running) (by simp)
  apply inv_write h (f := .fail now reason) (fun _ => rfl) (fun _ => rfl)
  case hsub =>
    rw [hdb]
    rfl
  case htests =>
    rw [hdb]
    rfl
  case hpub => exact hpub
  case hcarry => rfl
  case hrow => exact fun row hid => ⟨⟨t, hmem, hid.symm, hconf⟩, rfl⟩
  case howes => exact .inl rfl

theorem inv_announce {execStatus : ExecStatus} {resultStatus : ResultStatus}
    (h : Inv adapters queue testId n ⟨w, ts₁ ++ (t, .saved) :: ts₂⟩) (hdb : w'.db = w.db)
    (hpub : w'.published
      = w.published ++ [(.test t.job.testId, probe.subtaskUpdated t.job execStatus resultStatus)])
    : Inv adapters queue testId n ⟨w', ts₁ ++ (t, .announced) :: ts₂⟩ := by
  apply inv_idle h hdb (by simp [Phase.early]) (by simp)
  case hcarry =>
    intro _ c hc
    cases hc
  case howed => exact fun _ _ _ => rfl
  case hevents =>
    intro channel passed failed hevent
    rw [hpub, List.mem_append, List.mem_singleton] at hevent
    rcases hevent with hevent | hevent
    . exact h.events channel passed failed hevent
    . cases hevent

/--
The count found subtasks outstanding: the task leaves the close-out to others, and owes it no longer.
-/
theorem inv_remain (h : Inv adapters queue testId n ⟨w, ts₁ ++ (t, .announced) :: ts₂⟩)
    (hc : 0 < (w.db.countSubtasks t.job.testId).outstanding)
    : Inv adapters queue testId n ⟨w, ts₁ ++ (t, .handled) :: ts₂⟩ := by
  apply inv_idle h rfl (by simp [Phase.early]) (by simp)
  case hcarry =>
    intro _ c hc
    cases hc
  case howed =>
    intro hmine _ hall
    rw [hmine] at hc
    have := Db.outstanding_eq_zero_iff.mpr hall
    omega
  case hevents => exact h.events

theorem inv_count (hn : 0 < n) (h : Inv adapters queue testId n ⟨w, ts₁ ++ (t, .announced) :: ts₂⟩)
    (hc : (w.db.countSubtasks t.job.testId).outstanding = 0)
    : Inv adapters queue testId n
        ⟨w, ts₁ ++ (t, .counted (w.db.countSubtasks t.job.testId)) :: ts₂⟩ := by
  apply inv_idle h rfl (by simp [Phase.early]) (by simp)
  case hcarry =>
    intro hmine c hc'
    cases hc'
    rw [hmine] at hc ⊢
    exact countsOk_of_outstanding hn h hc
  case howed => exact fun _ _ _ => rfl
  case hevents => exact h.events

theorem inv_close {now : Time} {c : SubtaskCounts}
    (h : Inv adapters queue testId n ⟨w, ts₁ ++ (t, .counted c) :: ts₂⟩)
    (hdb : w'.db = w.db.closeTest now t.job.testId c.closeOutStatus) (hpub : w'.published = w.published)
    : Inv adapters queue testId n ⟨w', ts₁ ++ (t, .closing c) :: ts₂⟩ := by
  have hcounts : t.job.testId = testId → CountsOk adapters queue testId n c :=
    fun hmine => h.carried (t, .counted c) (by simp) hmine c rfl
  obtain ⟨test, htest⟩ := h.test
  have hclose : t.job.testId = testId →
      w'.db.test? testId = some (test.close now c.closeOutStatus) := by
    rintro rfl
    rw [hdb, Db.test?_closeTest, htest]
    rfl
  have hother : t.job.testId ≠ testId → w'.db.test? testId = some test := by
    intro hne
    rw [hdb, Db.test?_closeTest_of_ne _ _ _ hne.symm]
    exact htest
  apply inv_frame h (by rw [hdb]; rfl) (by simp [Phase.early]) (by simp)
  case hcarry =>
    intro hmine c' hc'
    cases hc'
    exact hcounts hmine
  case htest =>
    by_cases hmine : t.job.testId = testId
    . exact ⟨_, hclose hmine⟩
    . exact ⟨_, hother hmine⟩
  case hstatus =>
    intro test' htest' hclosed
    by_cases hmine : t.job.testId = testId
    . rw [hclose hmine] at htest'
      cases htest'
      exact (hcounts hmine).status
    . rw [hother hmine] at htest'
      cases htest'
      exact h.status test htest hclosed
  case hclosed =>
    rintro ⟨test', htest', hclosed⟩
    by_cases hmine : t.job.testId = testId
    . exact ⟨_, hclose hmine, Db.closed_closeOutStatus c⟩
    . rw [htest] at htest'
      cases htest'
      exact ⟨test, hother hmine, hclosed⟩
  case howed =>
    intro hmine _ _ hnot
    exact absurd ⟨_, hclose hmine, Db.closed_closeOutStatus c⟩ hnot
  case hevents =>
    rw [hpub]
    exact h.events

theorem inv_finish {c : SubtaskCounts} (hlt : n < 2 ^ 32)
    (h : Inv adapters queue testId n ⟨w, ts₁ ++ (t, .closing c) :: ts₂⟩) (hdb : w'.db = w.db)
    (hpub : w'.published
      = w.published ++ [(.test t.job.testId, probe.testFinished t.job ⟨c.passed, c.failed⟩)])
    : Inv adapters queue testId n ⟨w', ts₁ ++ (t, .handled) :: ts₂⟩ := by
  apply inv_idle h hdb (by simp [Phase.early]) (by simp)
  case hcarry =>
    intro _ c hc
    cases hc
  case howed =>
    intro _ howes
    cases howes
  case hevents =>
    intro channel passed failed hevent
    rw [hpub, List.mem_append, List.mem_singleton] at hevent
    rcases hevent with hevent | hevent
    . exact h.events channel passed failed hevent
    . simp only [probe.testFinished, Prod.mk.injEq, Event.testFinished.injEq] at hevent
      obtain ⟨-, hmine, rfl, rfl⟩ := hevent
      have hsum := (h.carried (t, .closing c) (by simp) hmine.symm c rfl).sum
      simp only [UInt32.toNat_ofNat']
      omega

theorem inv_ack (h : Inv adapters queue testId n ⟨w, ts₁ ++ (t, .handled) :: ts₂⟩)
    (hdb : w'.db = w.db) (hpub : w'.published = w.published)
    : Inv adapters queue testId n ⟨w', ts₁ ++ (t, .acked) :: ts₂⟩ := by
  apply inv_idle h hdb (by simp [Phase.early]) (by simp)
  case hcarry =>
    intro _ c hc
    cases hc
  case howed =>
    intro _ howes
    cases howes
  case hevents =>
    rw [hpub]
    exact h.events

theorem inv_perform {op : Op} {r : op.Reply} {env : Env} (hn : 0 < n) (hlt : n < 2 ^ 32)
    (h : Inv adapters queue testId n ⟨w, ts₁ ++ (t, s) :: ts₂⟩) (henv : env.Faultless)
    (hexec : env.exec op w = (r, w')) (hs : Next adapters t.delivery t.job s op r s')
    : Inv adapters queue testId n ⟨w', ts₁ ++ (t, s') :: ts₂⟩ := by
  cases hs with
  | openTest =>
    obtain ⟨db', hok, rfl⟩ := Env.statement_ok hexec
    cases hok
    exact inv_open h rfl rfl
  | startSubtask =>
    obtain ⟨db', hok, rfl⟩ := Env.statement_ok hexec
    cases hok
    exact inv_start h rfl rfl
  | call hop =>
    obtain ⟨hdb, hpub⟩ := env.exec_call hop w
    rw [hexec] at hdb hpub
    exact inv_call h hdb hpub
  | save hconf hresult =>
    obtain ⟨db', hok, rfl⟩ := Env.statement_ok hexec
    exact inv_save h hconf hresult hok rfl
  | failSubtask hconf =>
    obtain ⟨db', hok, rfl⟩ := Env.statement_ok hexec
    cases hok
    exact inv_fail h hconf rfl rfl
  | announce =>
    simp only [Env.exec, henv _] at hexec
    cases hexec
    exact inv_announce h rfl rfl
  | countSome hc =>
    simp only [Env.exec, henv _] at hexec
    cases hexec
    exact inv_remain h hc
  | countNone hc =>
    simp only [Env.exec, henv _] at hexec
    cases hexec
    exact inv_count hn h hc
  | close =>
    obtain ⟨db', hok, rfl⟩ := Env.statement_ok hexec
    cases hok
    exact inv_close h rfl rfl
  | finish =>
    simp only [Env.exec, henv _] at hexec
    cases hexec
    exact inv_finish hlt h rfl rfl
  | ack =>
    simp only [Env.exec, henv _] at hexec
    cases hexec
    exact inv_ack h rfl rfl
  -- The replies that report a failure contradict `henv`.
  | openTestFails e | startSubtaskFails e | failSubtaskFails e | announceFails e | countFails e
  | closeFails e =>
    simp only [Env.exec, Env.statement, henv _] at hexec
    cases hexec
  | @saveFails result response e =>
    have hmem : t ∈ queue := h.threads_mem (t, .running) (by simp)
    obtain ⟨db', hsave, -, -⟩ := h.saveReport_eq hmem env.now result response
    simp only [Env.exec, Env.statement, henv.saveFailure, hsave] at hexec
    cases hexec

end Steps

theorem inv_step {a a' : system.PhaseState serde} {l : Pool.Label (ProbeEntry serde) Op}
    (hn : 0 < n) (hlt : n < 2 ^ 32) (h : Inv adapters queue testId n a)
    (hstep : system.PhaseStep Env.Faultless adapters queue a l a')
    : Inv adapters queue testId n a' := by
  cases hstep with
  | spawn t ht => exact inv_spawn h ht.1
  | perform t op s s' r hexec hs =>
    obtain ⟨env, henv, hexec⟩ := hexec
    exact inv_perform hn hlt h henv hexec hs

theorem terminal_of_acked {a : system.PhaseState serde} (h : Inv adapters queue testId n a)
    (hacked : ∀ t ∈ a.threads, t.2 = .acked)
    (hhandled : ∀ entry ∈ queue, entry.job.testId = testId → ∃ t ∈ a.threads, t.1 = entry)
    : ∀ row ∈ a.world.db.subtasksOf testId, row.execStatus.outstanding = false := by
  intro row hrow
  have hok := h.rows row hrow
  unfold RowOk at hok
  cases hexec : row.execStatus with
  | finished => rfl
  | error => rfl
  | running =>
    rw [hexec] at hok
    obtain ⟨t, ht, -, hs⟩ := hok
    rw [hacked t ht] at hs
    cases hs
  | queued =>
    rw [hexec] at hok
    obtain ⟨entry, hentry, hid⟩ := h.job_of_row row hrow
    have htest : entry.job.testId = testId := by
      rw [← h.testId_eq hentry (List.mem_of_mem_filter hrow) hid]
      simpa using List.of_mem_filter hrow
    obtain ⟨t, ht, rfl⟩ := hhandled entry hentry htest
    have hs := hok t ht hid
    rw [hacked t ht] at hs
    cases hs

/--
However the statements of the tasks interleave and however often the jobs are redelivered, if no step
fails then every announced end of the test accounts for all of its subtasks, and once every job was
handled and nobody is running the test is closed, as failed exactly when every subtask errored out.
-/
theorem closed_of_all_handled {w : World} {s : system.State serde}
    (hcreated : Created queue w.db testId)
    (hpub : ∀ channel passed failed, (channel, Event.testFinished testId passed failed) ∉ w.published)
    (hreach : system.Reachable Env.Faultless adapters queue w s)
    : (∀ channel passed failed,
          (channel, Event.testFinished testId passed failed) ∈ s.world.published →
          passed.toNat + failed.toNat = (w.db.subtasksOf testId).length)
        ∧
      ((∀ t ∈ s.threads, ∃ u, t.2 = .pure u) →
        (∀ entry ∈ queue, entry.job.testId = testId → ∃ t ∈ s.threads, t.1 = entry) →
        ∃ test, s.world.db.test? testId = some test
          ∧ (test.status = .finished ∨ test.status = .failed)
          ∧ (test.status = .failed
              ↔ ∀ row ∈ s.world.db.subtasksOf testId, row.execStatus = .error)) := by
  have hpos : 0 < (w.db.subtasksOf testId).length := List.length_pos_iff.mpr hcreated.nonempty
  have hlt : (w.db.subtasksOf testId).length < 2 ^ 32 := by
    have := hcreated.count_lt
    omega
  have hinit : Inv adapters queue testId _ ⟨w, []⟩ := inv_init hcreated hpub
  obtain ⟨a, hsim, hinv⟩ :=
    system.reachable_invariant hinit (fun _ _ _ => inv_step hpos hlt) hreach
  rw [hsim.world]
  refine ⟨hinv.events, ?_⟩
  intro hpure hhandled
  have hacked : ∀ t ∈ a.threads, t.2 = .acked := by
    intro t ht
    obtain ⟨q, hq, hconf⟩ := hsim.exists_prog ht
    obtain ⟨u, rfl⟩ := hpure _ hq
    exact hconf
  have hterm := terminal_of_acked hinv hacked (by
    intro entry hentry htest
    obtain ⟨t, ht, rfl⟩ := hhandled entry hentry htest
    obtain ⟨phase, hphase, -⟩ := hsim.exists_phase ht
    exact ⟨_, hphase, rfl⟩)
  have hclosed : a.world.db.TestClosed testId := by
    by_contra hnot
    obtain ⟨t, ht, -, howes⟩ := hinv.owed hterm hnot
    rw [hacked t ht] at howes
    cases howes
  obtain ⟨test, htest, hclosed⟩ := hclosed
  refine ⟨test, htest, ?_, ?_⟩
  . cases hstatus : test.status <;> simp_all [TaskStatus.closed]
  . rw [hinv.status test htest hclosed, allDisabled_iff hinv hterm]

def labEntry : ProbeEntry tick.labSerde :=
  ⟨tick.labDelivery, probe.labJob "X25519MLKEM768" "mldsa65", rfl, tick.labSerde_probeJob⟩

theorem labCreated : Created [labEntry] probe.labWorld.db 1 := by
  constructor
  case toQueued =>
    constructor
    . decide
    . simp [labEntry, probe.labWorld, probe.labJob]
    . simp
  case pending => exact ⟨_, rfl, rfl⟩
  case queued => decide
  case job_of_row => simp [labEntry, probe.labWorld, probe.labJob, Db.subtasksOf]
  case nonempty => decide
  case count_lt => decide

def secondJob : ProbeJob :=
  { probe.labJob "X25519MLKEM768" "mldsa44" with subtaskId := 3 }

def secondPayload : String :=
  "\x7b\"test_id\":\"00000000-0000-0000-0000-000000000001\","
    ++ "\"subtask_id\":\"00000000-0000-0000-0000-000000000003\","
    ++ "\"host\":\"tls-good\",\"port\":443,\"http_path\":\"/\",\"adapter\":\"openssl\","
    ++ "\"group_name\":\"X25519MLKEM768\",\"sig_alg\":\"mldsa44\",\"timeout_ms\":15000\x7d"

def pairSerde : Serde :=
  {
    probeJob := fun payload =>
      if payload = secondPayload then
        .ok secondJob
      else
        tick.labSerde.probeJob payload
    kemJob := fun _ => .error "missing field run_id"
  }

theorem pairSerde_labPayload
    : pairSerde.probeJob tick.labPayload = .ok (probe.labJob "X25519MLKEM768" "mldsa65") := by
  have hne : tick.labPayload ≠ secondPayload := by decide +kernel
  unfold pairSerde
  dsimp only
  rw [if_neg hne]
  exact tick.labSerde_probeJob

theorem labDelivery_stream : tick.labDelivery.stream = STREAM_PROBE := rfl

def first : ProbeEntry pairSerde :=
  ⟨tick.labDelivery, probe.labJob "X25519MLKEM768" "mldsa65", labDelivery_stream, pairSerde_labPayload⟩

def second : ProbeEntry pairSerde :=
  ⟨⟨STREAM_PROBE, "1700000000000-1", secondPayload⟩, secondJob, rfl, by simp [pairSerde]⟩

def pairWorld : World :=
  {
    db := {
      tests := [{ id := 1 }]
      subtasks := [
        { id := 2, testId := 1, ordinal := 0, groupName := "X25519MLKEM768", sigAlg := "mldsa65" },
        { id := 3, testId := 1, ordinal := 1, groupName := "X25519MLKEM768", sigAlg := "mldsa44" }
      ]
    }
  }

theorem second_ne_first : second ≠ first := by
  intro h
  have hid := congrArg (fun entry => entry.job.subtaskId) h
  cases hid

theorem pairCreated : Created [first, second] pairWorld.db 1 := by
  constructor
  case toQueued =>
    constructor
    . decide
    . simp [first, second, secondJob, pairWorld, probe.labJob]
    . simp [first, second, secondJob, probe.labJob]
  case pending => exact ⟨_, rfl, rfl⟩
  case queued => decide
  case job_of_row => simp [first, second, secondJob, pairWorld, probe.labJob, Db.subtasksOf]
  case nonempty => decide
  case count_lt => decide

/--
The first task stops before it saves its report, the second one runs to its end, and then the first one writes the last
row and closes the test.
-/
theorem closed_of_all_handled_lab
    : ∃ s : system.State pairSerde,
        system.Reachable Env.Faultless probe.labRegistry [first, second] pairWorld s
          ∧ s.threads.length = 2
          ∧ ∃ test, s.world.db.test? 1 = some test
            ∧ (test.status = .finished ∨ test.status = .failed)
            ∧ (test.status = .failed
                ↔ ∀ row ∈ s.world.db.subtasksOf 1, row.execStatus = .error) := by
  obtain ⟨task₁, htask₁⟩ : ∃ task, task = tick.task pairSerde probe.labRegistry first.delivery := ⟨_, rfl⟩
  obtain ⟨task₂, htask₂⟩ : ∃ task, task = tick.task pairSerde probe.labRegistry second.delivery := ⟨_, rfl⟩
  let stop₁ := task₁.stop probe.labEnv.exec 5 pairWorld
  let stop₂ := task₂.stop probe.labEnv.exec 12 stop₁.2
  have hinit : system.Reachable Env.Faultless probe.labRegistry [first, second] pairWorld (system.init pairWorld) := .refl
  have hfirst := system.reachable_stop hinit probe.labEnv_faultless
    (⟨by simp, by decide⟩ : system.Deliverable [first, second] pairWorld first) 5
  rw [← htask₁] at hfirst
  have hacked : stop₁.2.acked = [] := by
    dsimp only [stop₁]
    rw [htask₁, first.task_eq]
    rfl
  have hsecond := system.reachable_stop hfirst probe.labEnv_faultless
    (⟨by simp, by simp [hacked]⟩ : system.Deliverable [first, second] stop₁.2 second) 12
  rw [← htask₂] at hsecond
  have hreach := hsecond.trans (Pool.steps_stop (fun op w => ⟨probe.labEnv, probe.labEnv_faultless, rfl⟩) first 12
    stop₁.1 stop₂.2 [(second, stop₂.1)] [])
  rw [first.task_eq] at htask₁
  rw [second.task_eq] at htask₂
  refine ⟨_, hreach, by simp, (closed_of_all_handled pairCreated (by simp [pairWorld]) hreach).2 ?_ (by simp)⟩
  rw [List.singleton_append, List.forall_mem_cons, List.forall_mem_singleton]
  dsimp only [stop₂, stop₁]
  rw [htask₁, htask₂]
  exact ⟨⟨(), rfl⟩, ⟨(), rfl⟩⟩

end closeOut

end PqCas
