import PqCas.Worker.Coherent

/-!
The lifecycle of the rows of a test, over whole runs in which any step may fail and any job may be
delivered again: what a later state may change of an earlier one, and what an announced end says about
the tables.
-/

namespace PqCas

structure TestRow.Sound (row : TestRow) : Prop where
  pending : row.status = .pending ↔ row.startedAt = none
  closed : row.status.closed = true ↔ row.finishedAt ≠ none

structure TestRow.Follows (before after : TestRow) : Prop where
  id : after.id = before.id
  pending : after.status = .pending → before.status = .pending
  closed : before.status.closed = true → after.status.closed = true
  startedAt : ∀ time, before.startedAt = some time → after.startedAt = some time

structure SubtaskRow.Sound (row : SubtaskRow) : Prop where
  queued : row.execStatus = .queued ↔ row.startedAt = none
  finished : row.execStatus = .finished →
    row.resultStatus ∈ [ResultStatus.passed, .failed, .unsupported]
      ∧ row.failedStage ≠ none ∧ row.finishedAt ≠ none
  error : row.execStatus = .error →
    row.resultStatus = .failed ∧ row.errorSummary ≠ none ∧ row.finishedAt ≠ none

structure SubtaskRow.Follows (before after : SubtaskRow) : Prop where
  id : after.id = before.id
  testId : after.testId = before.testId
  cell : (after.ordinal, after.groupName, after.sigAlg)
    = (before.ordinal, before.groupName, before.sigAlg)
  queued : after.execStatus = .queued → before.execStatus = .queued
  finishedAt : before.finishedAt ≠ none → after.finishedAt ≠ none

structure Db.Follows (before after : Db) : Prop where
  tests : List.Forall₂ TestRow.Follows before.tests after.tests
  subtasks : List.Forall₂ SubtaskRow.Follows before.subtasks after.subtasks
  reports : ∀ id, before.HasReport id → after.HasReport id

/--
The tables as `create_test` and the handlers leave them. Nothing of a pending test was started, and
everything of a closed one was.
-/
structure Db.Sound (db : Db) : Prop where
  tests : ∀ test ∈ db.tests, test.Sound
  subtasks : ∀ row ∈ db.subtasks, row.Sound
  pending : ∀ test ∈ db.tests, test.status = .pending →
    ∀ row ∈ db.subtasks, row.testId = test.id → row.execStatus = .queued
  closed : ∀ test ∈ db.tests, test.status.closed = true →
    ∀ row ∈ db.subtasks, row.testId = test.id → row.execStatus ≠ .queued

theorem TestRow.Follows.refl (row : TestRow) : row.Follows row :=
  ⟨rfl, fun h => h, fun h => h, fun _ h => h⟩

theorem TestRow.Follows.trans {a b c : TestRow} (h : a.Follows b) (h' : b.Follows c) : a.Follows c :=
  ⟨h'.id.trans h.id, h.pending ∘ h'.pending, h'.closed ∘ h.closed,
    fun time htime => h'.startedAt time (h.startedAt time htime)⟩

theorem SubtaskRow.Follows.refl (row : SubtaskRow) : row.Follows row :=
  ⟨rfl, rfl, rfl, fun h => h, fun h => h⟩

theorem SubtaskRow.Follows.trans {a b c : SubtaskRow} (h : a.Follows b) (h' : b.Follows c)
    : a.Follows c :=
  ⟨h'.id.trans h.id, h'.testId.trans h.testId, h'.cell.trans h.cell, h.queued ∘ h'.queued,
    h'.finishedAt ∘ h.finishedAt⟩

section Rows

variable {row : TestRow} (now : Time)

theorem TestRow.follows_start (h : row.status = .pending) : row.Follows (row.start now) := by
  constructor
  case id => rfl
  case pending => rintro ⟨⟩
  case closed =>
    rw [h]
    rintro ⟨⟩
  case startedAt =>
    intro time htime
    simp [TestRow.start, htime]

theorem TestRow.Sound.start (h : row.Sound) (hpending : row.status = .pending)
    : (row.start now).Sound := by
  have hstarted := h.pending.mp hpending
  constructor
  case pending => simp [TestRow.start, hstarted]
  case closed =>
    have hclosed := h.closed
    rw [hpending] at hclosed
    exact hclosed

theorem TestRow.follows_close (status : TaskStatus) (h : status.closed = true)
    : row.Follows (row.close now status) := by
  constructor
  case id => rfl
  case pending =>
    rintro rfl
    cases h
  case closed => exact fun _ => h
  case startedAt => exact fun _ h => h

theorem TestRow.Sound.close (h : row.Sound) (hpending : row.status ≠ .pending) {status : TaskStatus}
    (hstatus : status.closed = true) : (row.close now status).Sound := by
  constructor
  case pending =>
    constructor
    . rintro rfl
      cases hstatus
    . exact fun hnone => absurd (h.pending.mpr hnone) hpending
  case closed => simp [TestRow.close, hstatus]

end Rows

section SubtaskRows

variable {row : SubtaskRow} (now : Time)

theorem SubtaskRow.follows_start : row.Follows (row.start now) :=
  ⟨rfl, rfl, rfl, (by rintro ⟨⟩), fun h => h⟩

theorem SubtaskRow.sound_start : (row.start now).Sound := by
  constructor
  case queued => simp [SubtaskRow.start]
  case finished => rintro ⟨⟩
  case error => rintro ⟨⟩

theorem SubtaskRow.follows_finish (result : ResultStatus) (response : ProbeResponse)
    : row.Follows (row.finish now result response) :=
  ⟨rfl, rfl, rfl, (by rintro ⟨⟩), fun _ => by simp [SubtaskRow.finish]⟩

theorem SubtaskRow.sound_finish (hstarted : row.startedAt ≠ none) {result : ResultStatus}
    (hresult : result ∈ [ResultStatus.passed, .failed, .unsupported]) (response : ProbeResponse)
    : (row.finish now result response).Sound := by
  constructor
  case queued => simpa [SubtaskRow.finish] using hstarted
  case finished => exact fun _ => ⟨hresult, by simp [SubtaskRow.finish], by simp [SubtaskRow.finish]⟩
  case error => rintro ⟨⟩

theorem SubtaskRow.follows_fail (reason : String) : row.Follows (row.fail now reason) :=
  ⟨rfl, rfl, rfl, (by rintro ⟨⟩), fun _ => by simp [SubtaskRow.fail]⟩

theorem SubtaskRow.sound_fail (hstarted : row.startedAt ≠ none) (reason : String)
    : (row.fail now reason).Sound := by
  constructor
  case queued => simpa [SubtaskRow.fail] using hstarted
  case finished => rintro ⟨⟩
  case error => exact fun _ => ⟨rfl, by simp [SubtaskRow.fail], by simp [SubtaskRow.fail]⟩

end SubtaskRows

namespace Db

variable {db db' db'' : Db}

theorem Follows.refl (db : Db) : db.Follows db :=
  ⟨List.forall₂_same.mpr fun row _ => .refl row, List.forall₂_same.mpr fun row _ => .refl row,
    fun _ => id⟩

theorem forall₂_trans {α : Type} {R : α → α → Prop} (htrans : ∀ a b c, R a b → R b c → R a c)
    {as bs cs : List α} (h : List.Forall₂ R as bs) (h' : List.Forall₂ R bs cs)
    : List.Forall₂ R as cs := by
  induction h generalizing cs with
  | nil => exact h'
  | cons hab _ ih =>
    cases h' with
    | cons hbc h' => exact .cons (htrans _ _ _ hab hbc) (ih h')

theorem Follows.trans (h : db.Follows db') (h' : db'.Follows db'') : db.Follows db'' :=
  ⟨forall₂_trans (fun _ _ _ h h' => h.trans h') h.tests h'.tests,
    forall₂_trans (fun _ _ _ h h' => h.trans h') h.subtasks h'.subtasks,
    fun id hid => h'.reports id (h.reports id hid)⟩

theorem Follows.exists_test (h : db.Follows db') {test' : TestRow} (htest : test' ∈ db'.tests)
    : ∃ test ∈ db.tests, test.Follows test' := by
  exact Pool.forall₂_exists_right h.tests.flip htest

theorem Follows.exists_subtask (h : db.Follows db') {row' : SubtaskRow} (hrow : row' ∈ db'.subtasks)
    : ∃ row ∈ db.subtasks, row.Follows row' := by
  exact Pool.forall₂_exists_right h.subtasks.flip hrow

theorem length_filter_follows {rows rows' : List SubtaskRow}
    (h : List.Forall₂ SubtaskRow.Follows rows rows') (testId : Uuid)
    : (rows'.filter (fun row => row.testId = testId)).length
        =
      (rows.filter (fun row => row.testId = testId)).length := by
  induction h with
  | nil => rfl
  | cons hrow _ ih =>
    simp only [List.filter_cons, hrow.testId]
    split
    . simpa using ih
    . exact ih

theorem Follows.length_subtasksOf (h : db.Follows db') (testId : Uuid)
    : (db'.subtasksOf testId).length = (db.subtasksOf testId).length :=
  length_filter_follows h.subtasks testId

theorem forall₂_updateWhere {α : Type} {R : α → α → Prop} {rows : List α} {p : α → Bool} {f : α → α}
    (hrefl : ∀ row, R row row) (h : ∀ row ∈ rows, p row = true → R row (f row))
    : List.Forall₂ R rows (Table.updateWhere rows p f) := by
  unfold Table.updateWhere
  rw [List.forall₂_map_right_iff, List.forall₂_same]
  intro row hrow
  split
  . next hp => exact h row hrow hp
  . exact hrefl row

theorem follows_markTestRunning (now : Time) (testId : Uuid)
    : db.Follows (db.markTestRunning now testId) := by
  refine ⟨?_, (Follows.refl db).subtasks, fun _ => id⟩
  apply forall₂_updateWhere TestRow.Follows.refl
  intro row _ hp
  simp only [Bool.and_eq_true, beq_iff_eq] at hp
  exact TestRow.follows_start now hp.2

theorem follows_closeTest (now : Time) (testId : Uuid) {status : TaskStatus}
    (h : status.closed = true) : db.Follows (db.closeTest now testId status) := by
  refine ⟨?_, (Follows.refl db).subtasks, fun _ => id⟩
  apply forall₂_updateWhere TestRow.Follows.refl
  exact fun _ _ _ => TestRow.follows_close now status h

theorem follows_of_subtasks {p : SubtaskRow → Bool} {f : SubtaskRow → SubtaskRow}
    (htests : db'.tests = db.tests) (hsub : db'.subtasks = Table.updateWhere db.subtasks p f)
    (hreports : ∀ id, db.HasReport id → db'.HasReport id) (hf : ∀ row : SubtaskRow, row.Follows (f row))
    : db.Follows db' := by
  constructor
  case tests =>
    rw [htests]
    exact (Follows.refl db).tests
  case subtasks =>
    rw [hsub]
    exact forall₂_updateWhere SubtaskRow.Follows.refl (fun row _ _ => hf row)
  case reports => exact hreports

end Db

namespace lifecycle

variable {serde : Serde} {adapters : AdapterRegistry} {queue : List (ProbeEntry serde)}

def Settled (db : Db) (testId : Uuid) (c : SubtaskCounts) : Prop :=
  (∀ row ∈ db.subtasks, row.testId = testId → row.execStatus ≠ .queued)
    ∧ c.passed + c.failed = (db.subtasksOf testId).length

def Entered (db : Db) (testId : Uuid) : Prop :=
  ∀ test ∈ db.tests, test.id = testId → test.status ≠ .pending

def Closed (db : Db) (testId : Uuid) : Prop :=
  ∀ test ∈ db.tests, test.id = testId → test.status.closed = true

/--
What the phase of a task says about the tables. It only speaks of what no later step undoes.
-/
def PhaseOk (db : Db) (job : ProbeJob) (s : Phase) : Prop :=
  match s with
  | .received | .handled | .acked => True
  | .opened => Entered db job.testId
  | .running | .saved | .announced =>
    Entered db job.testId ∧ ∀ row ∈ db.subtasks, row.id = job.subtaskId → row.execStatus ≠ .queued
  | .counted c => Entered db job.testId ∧ Settled db job.testId c
  | .closing c => Closed db job.testId ∧ Settled db job.testId c

/--
An end that is announced is one: the test is closed, and the two numbers add up to its subtasks (as long
as they fit into the event).
-/
structure Announced (db : Db) (channel : Channel) (testId : Uuid) (passed failed : UInt32) : Prop where
  channel_eq : channel = .test testId
  closed : Closed db testId
  sum : (db.subtasksOf testId).length < 2 ^ 32 →
    passed.toNat + failed.toNat = (db.subtasksOf testId).length

def AllAnnounced (w : World) : Prop :=
  ∀ channel testId passed failed, (channel, Event.testFinished testId passed failed) ∈ w.published →
    Announced w.db channel testId passed failed

section Mono

variable {db db' : Db} {testId : Uuid}

theorem Entered.mono (hf : db.Follows db') (h : Entered db testId) : Entered db' testId := by
  intro test' htest' hid hpending
  obtain ⟨test, htest, hrow⟩ := hf.exists_test htest'
  exact h test htest (hrow.id.symm.trans hid) (hrow.pending hpending)

theorem Closed.mono (hf : db.Follows db') (h : Closed db testId) : Closed db' testId := by
  intro test' htest' hid
  obtain ⟨test, htest, hrow⟩ := hf.exists_test htest'
  exact hrow.closed (h test htest (hrow.id.symm.trans hid))

theorem Settled.mono (hf : db.Follows db') {c : SubtaskCounts} (h : Settled db testId c)
    : Settled db' testId c := by
  refine ⟨?_, h.2.trans (hf.length_subtasksOf testId).symm⟩
  intro row' hrow' hid hqueued
  obtain ⟨row, hrow, hfollows⟩ := hf.exists_subtask hrow'
  exact h.1 row hrow (hfollows.testId.symm.trans hid) (hfollows.queued hqueued)

theorem PhaseOk.mono (hf : db.Follows db') {job : ProbeJob} {s : Phase} (h : PhaseOk db job s)
    : PhaseOk db' job s := by
  have hstarted : (∀ row ∈ db.subtasks, row.id = job.subtaskId → row.execStatus ≠ .queued) →
      ∀ row ∈ db'.subtasks, row.id = job.subtaskId → row.execStatus ≠ .queued := by
    intro h row' hrow' hid hqueued
    obtain ⟨row, hrow, hfollows⟩ := hf.exists_subtask hrow'
    exact h row hrow (hfollows.id.symm.trans hid) (hfollows.queued hqueued)
  cases s with
  | received | handled | acked => trivial
  | opened => exact Entered.mono hf h
  | running | saved | announced => exact ⟨Entered.mono hf h.1, hstarted h.2⟩
  | counted c => exact ⟨Entered.mono hf h.1, Settled.mono hf h.2⟩
  | closing c => exact ⟨Closed.mono hf h.1, Settled.mono hf h.2⟩

theorem Announced.mono (hf : db.Follows db') {channel : Channel} {passed failed : UInt32}
    (h : Announced db channel testId passed failed) : Announced db' channel testId passed failed := by
  constructor
  case channel_eq => exact h.channel_eq
  case closed => exact Closed.mono hf h.closed
  case sum =>
    rw [hf.length_subtasksOf]
    exact h.sum

end Mono

variable (queue) in
structure Inv (a : system.PhaseState serde) : Prop extends Queued queue a.world.db where
  threads_mem : ∀ t ∈ a.threads, t.1 ∈ queue
  sound : a.world.db.Sound
  phases : ∀ t ∈ a.threads, PhaseOk a.world.db t.1.job t.2
  announced : AllAnnounced a.world

section Steps

variable {w w' : World} {ts₁ ts₂ : List (ProbeEntry serde × Phase)} {t : ProbeEntry serde}
variable {s s' : Phase}

theorem inv_frame (h : Inv queue ⟨w, ts₁ ++ (t, s) :: ts₂⟩) (hqueued : Queued queue w'.db)
    (hfollows : w.db.Follows w'.db) (hsound : w'.db.Sound) (hphase : PhaseOk w'.db t.job s')
    (hannounced : AllAnnounced w')
    : Inv queue ⟨w', ts₁ ++ (t, s') :: ts₂⟩ := by
  constructor
  case toQueued => exact hqueued
  case threads_mem => exact Pool.forall_replace h.threads_mem id
  case sound => exact hsound
  case phases =>
    have hphases : ∀ t' ∈ ts₁ ++ (t, s) :: ts₂, PhaseOk w'.db t'.1.job t'.2 :=
      fun t' ht' => (h.phases t' ht').mono hfollows
    exact Pool.forall_replace hphases (fun _ => hphase)
  case announced => exact hannounced

theorem AllAnnounced.mono (hfollows : w.db.Follows w'.db) (hpub : w'.published = w.published)
    (h : AllAnnounced w) : AllAnnounced w' := by
  intro channel testId passed failed hevent
  rw [hpub] at hevent
  exact (h channel testId passed failed hevent).mono hfollows

theorem inv_idle (h : Inv queue ⟨w, ts₁ ++ (t, s) :: ts₂⟩) (hdb : w'.db = w.db)
    (hpub : w'.published = w.published) (hphase : PhaseOk w.db t.job s → PhaseOk w.db t.job s')
    : Inv queue ⟨w', ts₁ ++ (t, s') :: ts₂⟩ := by
  have hfollows : w.db.Follows w'.db := by
    rw [hdb]
    exact .refl _
  apply inv_frame h (hdb ▸ h.toQueued) hfollows (hdb ▸ h.sound)
  . rw [hdb]
    exact hphase (h.phases (t, s) (by simp))
  . exact h.announced.mono hfollows hpub

theorem inv_open {now : Time} (h : Inv queue ⟨w, ts₁ ++ (t, s) :: ts₂⟩)
    (hdb : w'.db = w.db.markTestRunning now t.job.testId) (hpub : w'.published = w.published)
    : Inv queue ⟨w', ts₁ ++ (t, .opened) :: ts₂⟩ := by
  have hfollows : w.db.Follows w'.db := by
    rw [hdb]
    exact Db.follows_markTestRunning now t.job.testId
  have hmem : ∀ test' ∈ w'.db.tests,
      (∃ test ∈ w.db.tests, test.id = t.job.testId ∧ test.status = .pending ∧ test' = test.start now)
        ∨ (test' ∈ w.db.tests ∧ ¬ (test'.id = t.job.testId ∧ test'.status = .pending)) := by
    intro test' htest'
    rw [hdb] at htest'
    rcases Table.mem_updateWhere.mp htest' with ⟨test, htest, hp, rfl⟩ | ⟨htest, hp⟩
    . simp only [Bool.and_eq_true, decide_eq_true_eq, beq_iff_eq] at hp
      exact .inl ⟨test, htest, hp.1, hp.2, rfl⟩
    . refine .inr ⟨htest, ?_⟩
      rintro ⟨hid, hpending⟩
      simp [hid, hpending] at hp
  have hsub : w'.db.subtasks = w.db.subtasks := by
    rw [hdb]
    rfl
  apply inv_frame h _ hfollows
  case hsound =>
    constructor
    case tests =>
      intro test' htest'
      rcases hmem test' htest' with ⟨test, htest, -, hpending, rfl⟩ | ⟨htest, -⟩
      . exact (h.sound.tests test htest).start now hpending
      . exact h.sound.tests test' htest
    case subtasks => exact hsub ▸ h.sound.subtasks
    case pending =>
      intro test' htest' hpending'
      rw [hsub]
      rcases hmem test' htest' with ⟨test, -, -, -, rfl⟩ | ⟨htest, -⟩
      . cases hpending'
      . exact h.sound.pending test' htest hpending'
    case closed =>
      intro test' htest' hclosed
      rw [hsub]
      rcases hmem test' htest' with ⟨test, -, -, -, rfl⟩ | ⟨htest, -⟩
      . cases hclosed
      . exact h.sound.closed test' htest hclosed
  case hphase =>
    intro test' htest' hid hpending'
    rcases hmem test' htest' with ⟨test, -, -, -, rfl⟩ | ⟨-, hne⟩
    . cases hpending'
    . exact hne ⟨hid, hpending'⟩
  case hannounced => exact h.announced.mono hfollows hpub
  . rw [hdb]
    exact ⟨h.ids_nodup, h.row_of_job, h.job_unique⟩

theorem inv_close {now : Time} {c : SubtaskCounts} (h : Inv queue ⟨w, ts₁ ++ (t, .counted c) :: ts₂⟩)
    (hdb : w'.db = w.db.closeTest now t.job.testId c.closeOutStatus) (hpub : w'.published = w.published)
    : Inv queue ⟨w', ts₁ ++ (t, .closing c) :: ts₂⟩ := by
  obtain ⟨hentered, hsettled⟩ : PhaseOk w.db t.job (.counted c) := h.phases (t, .counted c) (by simp)
  have hstatus := Db.closed_closeOutStatus c
  have hfollows : w.db.Follows w'.db := by
    rw [hdb]
    exact Db.follows_closeTest now t.job.testId hstatus
  have hmem : ∀ test' ∈ w'.db.tests,
      (∃ test ∈ w.db.tests, test.id = t.job.testId ∧ test' = test.close now c.closeOutStatus)
        ∨ (test' ∈ w.db.tests ∧ test'.id ≠ t.job.testId) := by
    intro test' htest'
    rw [hdb] at htest'
    rcases Table.mem_updateWhere.mp htest' with ⟨test, htest, hp, rfl⟩ | ⟨htest, hp⟩
    . exact .inl ⟨test, htest, by simpa using hp, rfl⟩
    . exact .inr ⟨htest, by simpa using hp⟩
  have hsub : w'.db.subtasks = w.db.subtasks := by
    rw [hdb]
    rfl
  apply inv_frame h _ hfollows
  case hsound =>
    constructor
    case tests =>
      intro test' htest'
      rcases hmem test' htest' with ⟨test, htest, hid, rfl⟩ | ⟨htest, -⟩
      . exact (h.sound.tests test htest).close now (hentered test htest hid) hstatus
      . exact h.sound.tests test' htest
    case subtasks => exact hsub ▸ h.sound.subtasks
    case pending =>
      intro test' htest' hpending'
      rw [hsub]
      rcases hmem test' htest' with ⟨test, -, -, rfl⟩ | ⟨htest, -⟩
      . have hpending : c.closeOutStatus = .pending := hpending'
        rw [hpending] at hstatus
        cases hstatus
      . exact h.sound.pending test' htest hpending'
    case closed =>
      intro test' htest' hclosed
      rw [hsub]
      rcases hmem test' htest' with ⟨test, -, hid, rfl⟩ | ⟨htest, -⟩
      . -- The count that led to the close found every subtask of the test started.
        intro row hrow hrowtest
        exact hsettled.1 row hrow (hrowtest.trans hid)
      . exact h.sound.closed test' htest hclosed
  case hphase =>
    refine ⟨?_, hsettled.mono hfollows⟩
    intro test' htest' hid
    rcases hmem test' htest' with ⟨test, -, -, rfl⟩ | ⟨-, hne⟩
    . exact hstatus
    . exact absurd hid hne
  case hannounced => exact h.announced.mono hfollows hpub
  . rw [hdb]
    exact ⟨h.ids_nodup, h.row_of_job, h.job_unique⟩

theorem inv_write (h : Inv queue ⟨w, ts₁ ++ (t, s) :: ts₂⟩) {f : SubtaskRow → SubtaskRow}
    (hentered : Entered w.db t.job.testId)
    (hsub : w'.db.subtasks = Table.updateWhere w.db.subtasks (fun row => row.id = t.job.subtaskId) f)
    (htests : w'.db.tests = w.db.tests) (hreports : ∀ id, w.db.HasReport id → w'.db.HasReport id)
    (hpub : w'.published = w.published) (hf : ∀ row : SubtaskRow, row.Follows (f row))
    (hsound : ∀ row ∈ w.db.subtasks, row.id = t.job.subtaskId → (f row).Sound)
    (hstarted : ∀ row, (f row).execStatus ≠ .queued)
    (hs' : s' = .running ∨ s' = .saved)
    : Inv queue ⟨w', ts₁ ++ (t, s') :: ts₂⟩ ∧ w.db.Follows w'.db := by
  have hfollows : w.db.Follows w'.db := Db.follows_of_subtasks htests hsub hreports hf
  refine ⟨?_, hfollows⟩
  have hmem : ∀ row' ∈ w'.db.subtasks,
      (∃ row ∈ w.db.subtasks, row.id = t.job.subtaskId ∧ row' = f row)
        ∨ (row' ∈ w.db.subtasks ∧ row'.id ≠ t.job.subtaskId) := by
    intro row' hrow'
    rw [hsub] at hrow'
    rcases Table.mem_updateWhere.mp hrow' with ⟨row, hrow, hp, rfl⟩ | ⟨hrow, hp⟩
    . exact .inl ⟨row, hrow, by simpa using hp, rfl⟩
    . exact .inr ⟨hrow, by simpa using hp⟩
  have hjob : t ∈ queue := h.threads_mem (t, s) (by simp)
  apply inv_frame h _ hfollows
  case hsound =>
    constructor
    case tests => exact htests ▸ h.sound.tests
    case subtasks =>
      intro row' hrow'
      rcases hmem row' hrow' with ⟨row, hrow, hid, rfl⟩ | ⟨hrow, -⟩
      . exact hsound row hrow hid
      . exact h.sound.subtasks row' hrow
    case pending =>
      intro test htest hpending row' hrow' hrowtest
      rw [htests] at htest
      rcases hmem row' hrow' with ⟨row, hrow, hid, rfl⟩ | ⟨hrow, -⟩
      . -- The row belongs to the test of the job, which is not pending.
        have htestId := h.testId_eq hjob hrow hid.symm
        rw [(hf row).testId, htestId] at hrowtest
        exact absurd hpending (hentered test htest hrowtest.symm)
      . exact h.sound.pending test htest hpending row' hrow hrowtest
    case closed =>
      intro test htest hclosed row' hrow' hrowtest
      rw [htests] at htest
      rcases hmem row' hrow' with ⟨row, -, -, rfl⟩ | ⟨hrow, -⟩
      . exact hstarted row
      . exact h.sound.closed test htest hclosed row' hrow hrowtest
  case hphase =>
    have hrow : ∀ row' ∈ w'.db.subtasks, row'.id = t.job.subtaskId → row'.execStatus ≠ .queued := by
      intro row' hrow' hid
      rcases hmem row' hrow' with ⟨row, -, -, rfl⟩ | ⟨-, hne⟩
      . exact hstarted row
      . exact absurd hid hne
    rcases hs' with rfl | rfl
    . exact ⟨hentered.mono hfollows, hrow⟩
    . exact ⟨hentered.mono hfollows, hrow⟩
  case hannounced => exact h.announced.mono hfollows hpub
  . exact h.toQueued.write (fun row => (hf row).id) (fun row => (hf row).testId) hsub

theorem inv_start {now : Time} (h : Inv queue ⟨w, ts₁ ++ (t, .opened) :: ts₂⟩)
    (hdb : w'.db = w.db.markSubtaskRunning now t.job.subtaskId) (hpub : w'.published = w.published)
    : Inv queue ⟨w', ts₁ ++ (t, .running) :: ts₂⟩ ∧ w.db.Follows w'.db := by
  have hentered : PhaseOk w.db t.job .opened := h.phases (t, .opened) (by simp)
  have hsub : w'.db.subtasks
      = Table.updateWhere w.db.subtasks (fun row => row.id = t.job.subtaskId) (.start now) := by
    rw [hdb]
    rfl
  have htests : w'.db.tests = w.db.tests := by
    rw [hdb]
    rfl
  have hreports : ∀ id, w.db.HasReport id → w'.db.HasReport id := by
    rw [hdb]
    exact fun _ hid => hid
  have hf : ∀ row : SubtaskRow, row.Follows (row.start now) :=
    fun row => SubtaskRow.follows_start now
  apply inv_write h hentered hsub htests hreports hpub hf
  case hsound => exact fun _ _ _ => SubtaskRow.sound_start now
  case hstarted => rintro _ ⟨⟩
  case hs' => exact .inl rfl

theorem startedAt_of_running (h : Inv queue ⟨w, ts₁ ++ (t, .running) :: ts₂⟩) {row : SubtaskRow}
    (hrow : row ∈ w.db.subtasks) (hid : row.id = t.job.subtaskId) : row.startedAt ≠ none := by
  have hphase : PhaseOk w.db t.job .running := h.phases (t, .running) (by simp)
  intro hnone
  exact hphase.2 row hrow hid ((h.sound.subtasks row hrow).queued.mpr hnone)

theorem inv_save {now : Time} {result : ResultStatus} {response : ProbeResponse}
    (h : Inv queue ⟨w, ts₁ ++ (t, .running) :: ts₂⟩)
    (hresult : result ∈ [ResultStatus.passed, .failed, .unsupported])
    (hsave : w.db.saveReport now t.job.subtaskId result response = .ok w'.db)
    (hpub : w'.published = w.published)
    : Inv queue ⟨w', ts₁ ++ (t, .saved) :: ts₂⟩ ∧ w.db.Follows w'.db := by
  have hphase : PhaseOk w.db t.job .running := h.phases (t, .running) (by simp)
  obtain ⟨htests, hsub, -⟩ := Db.of_saveReport hsave
  have hreports : ∀ id, w.db.HasReport id → w'.db.HasReport id :=
    fun id hid => (Db.hasReport_saveReport hsave id).mpr (.inr hid)
  have hf : ∀ row : SubtaskRow, row.Follows (row.finish now result response) :=
    fun row => SubtaskRow.follows_finish now result response
  apply inv_write h hphase.1 hsub htests hreports hpub hf
  case hsound =>
    intro row hrow hid
    exact SubtaskRow.sound_finish now (startedAt_of_running h hrow hid) hresult response
  case hstarted => rintro _ ⟨⟩
  case hs' => exact .inr rfl

theorem inv_fail {now : Time} {reason : String} (h : Inv queue ⟨w, ts₁ ++ (t, .running) :: ts₂⟩)
    (hdb : w'.db = w.db.markSubtaskError now t.job.subtaskId reason) (hpub : w'.published = w.published)
    : Inv queue ⟨w', ts₁ ++ (t, .saved) :: ts₂⟩ ∧ w.db.Follows w'.db := by
  have hphase : PhaseOk w.db t.job .running := h.phases (t, .running) (by simp)
  have hsub : w'.db.subtasks
      = Table.updateWhere w.db.subtasks (fun row => row.id = t.job.subtaskId) (.fail now reason) := by
    rw [hdb]
    rfl
  have htests : w'.db.tests = w.db.tests := by
    rw [hdb]
    rfl
  have hreports : ∀ id, w.db.HasReport id → w'.db.HasReport id := by
    rw [hdb]
    exact fun _ hid => hid
  have hf : ∀ row : SubtaskRow, row.Follows (row.fail now reason) :=
    fun row => SubtaskRow.follows_fail now reason
  apply inv_write h hphase.1 hsub htests hreports hpub hf
  case hsound =>
    intro row hrow hid
    exact SubtaskRow.sound_fail now (startedAt_of_running h hrow hid) reason
  case hstarted => rintro _ ⟨⟩
  case hs' => exact .inr rfl

theorem inv_announce {execStatus : ExecStatus} {resultStatus : ResultStatus}
    (h : Inv queue ⟨w, ts₁ ++ (t, .saved) :: ts₂⟩) (hdb : w'.db = w.db)
    (hpub : w'.published
      = w.published ++ [(.test t.job.testId, probe.subtaskUpdated t.job execStatus resultStatus)])
    : Inv queue ⟨w', ts₁ ++ (t, .announced) :: ts₂⟩ := by
  apply inv_frame h
  case hqueued => exact hdb ▸ h.toQueued
  case hfollows => exact hdb ▸ .refl _
  case hsound => exact hdb ▸ h.sound
  case hphase => exact hdb ▸ h.phases (t, .saved) (by simp)
  case hannounced =>
    intro channel testId passed failed hevent
    rw [hpub, List.mem_append, List.mem_singleton] at hevent
    rcases hevent with hevent | hevent
    . rw [hdb]
      exact h.announced channel testId passed failed hevent
    . cases hevent

theorem inv_finish {c : SubtaskCounts} (h : Inv queue ⟨w, ts₁ ++ (t, .closing c) :: ts₂⟩)
    (hdb : w'.db = w.db) (hpub : w'.published
      = w.published ++ [(.test t.job.testId, probe.testFinished t.job ⟨c.passed, c.failed⟩)])
    : Inv queue ⟨w', ts₁ ++ (t, .handled) :: ts₂⟩ := by
  obtain ⟨hclosed, hsettled⟩ : PhaseOk w.db t.job (.closing c) := h.phases (t, .closing c) (by simp)
  apply inv_frame h
  case hqueued => exact hdb ▸ h.toQueued
  case hfollows => exact hdb ▸ .refl _
  case hsound => exact hdb ▸ h.sound
  case hphase => trivial
  case hannounced =>
    intro channel testId passed failed hevent
    rw [hpub, List.mem_append, List.mem_singleton] at hevent
    rw [hdb]
    rcases hevent with hevent | hevent
    . exact h.announced channel testId passed failed hevent
    . simp only [probe.testFinished, Prod.mk.injEq, Event.testFinished.injEq] at hevent
      obtain ⟨rfl, rfl, rfl, rfl⟩ := hevent
      refine ⟨rfl, hclosed, ?_⟩
      intro hlt
      have hsum := hsettled.2
      simp only [UInt32.toNat_ofNat']
      omega

theorem settled_of_outstanding {db : Db} (h : db.Sound) {testId : Uuid}
    (hzero : (db.countSubtasks testId).outstanding = 0)
    : Settled db testId (db.countSubtasks testId) := by
  rw [Db.outstanding_eq_zero_iff] at hzero
  constructor
  . intro row hrow hid hqueued
    have hterm := hzero row (List.mem_filter.mpr ⟨hrow, by simpa using hid⟩)
    rw [hqueued] at hterm
    cases hterm
  . apply SubtaskCounts.passed_add_failed
    intro row hrow
    have hsound := h.subtasks row (List.mem_of_mem_filter hrow)
    have hterm := hzero row hrow
    cases hexec : row.execStatus with
    | queued | running =>
      rw [hexec] at hterm
      cases hterm
    | finished => exact (hsound.finished hexec).1
    | error => simp [(hsound.error hexec).1]

theorem inv_perform {op : Op} {r : op.Reply} {env : Env} (h : Inv queue ⟨w, ts₁ ++ (t, s) :: ts₂⟩)
    (hexec : env.exec op w = (r, w')) (hs : Next adapters t.delivery t.job s op r s')
    : Inv queue ⟨w', ts₁ ++ (t, s') :: ts₂⟩ ∧ w.db.Follows w'.db := by
  cases hs with
  | openTest =>
    obtain ⟨db', hok, rfl⟩ := Env.statement_ok hexec
    cases hok
    exact ⟨inv_open h rfl rfl, Db.follows_markTestRunning _ _⟩
  | startSubtask =>
    obtain ⟨db', hok, rfl⟩ := Env.statement_ok hexec
    cases hok
    exact inv_start h rfl rfl
  | call hop =>
    obtain ⟨hdb, hpub⟩ := env.exec_call hop w
    rw [hexec] at hdb hpub
    refine ⟨inv_idle h hdb hpub id, ?_⟩
    rw [hdb]
    exact .refl _
  | save hconf hresult =>
    obtain ⟨db', hok, rfl⟩ := Env.statement_ok hexec
    exact inv_save h hresult hok rfl
  | failSubtask hconf =>
    obtain ⟨db', hok, rfl⟩ := Env.statement_ok hexec
    cases hok
    exact inv_fail h rfl rfl
  | announce =>
    simp only [Env.exec] at hexec
    split at hexec <;> cases hexec
    exact ⟨inv_announce h rfl rfl, .refl _⟩
  | countNone hc =>
    simp only [Env.exec] at hexec
    split at hexec <;> cases hexec
    exact ⟨inv_idle h rfl rfl (fun hp => ⟨hp.1, settled_of_outstanding h.sound hc⟩), .refl _⟩
  | close =>
    obtain ⟨db', hok, rfl⟩ := Env.statement_ok hexec
    cases hok
    exact ⟨inv_close h rfl rfl, Db.follows_closeTest _ _ (Db.closed_closeOutStatus _)⟩
  | finish =>
    simp only [Env.exec] at hexec
    split at hexec <;> cases hexec
    . exact ⟨inv_idle h rfl rfl (fun _ => trivial), .refl _⟩
    . exact ⟨inv_finish h rfl rfl, .refl _⟩
  | openTestFails e | startSubtaskFails e | saveFails e | failSubtaskFails e | closeFails e =>
    have hw := Env.statement_error hexec
    refine ⟨inv_idle h (by rw [hw]) (by rw [hw]) (fun _ => trivial), ?_⟩
    rw [hw]
    exact .refl _
  | announceFails e | countSome hc | countFails e | ack =>
    simp only [Env.exec] at hexec
    split at hexec <;> cases hexec <;> exact ⟨inv_idle h rfl rfl (fun _ => trivial), .refl _⟩

end Steps

theorem inv_step {good : Env → Prop} {a a' : system.PhaseState serde}
    {l : Pool.Label (ProbeEntry serde) Op} (h : Inv queue a)
    (hstep : system.PhaseStep good adapters queue a l a')
    : Inv queue a' ∧ a.world.db.Follows a'.world.db := by
  cases hstep with
  | spawn t ht =>
    refine ⟨?_, .refl _⟩
    constructor
    case toQueued => exact h.toQueued
    case threads_mem => exact List.forall_mem_cons.mpr ⟨ht.1, h.threads_mem⟩
    case sound => exact h.sound
    case phases => exact List.forall_mem_cons.mpr ⟨trivial, h.phases⟩
    case announced => exact h.announced
  | perform t op phase phase' r hexec hs =>
    obtain ⟨env, -, hexec⟩ := hexec
    exact inv_perform h hexec hs

theorem exists_inv {good : Env → Prop} {w : World} {s : system.State serde} (hqueued : Queued queue w.db)
    (hsound : w.db.Sound)
    (hpub : ∀ channel testId passed failed,
      (channel, Event.testFinished testId passed failed) ∉ w.published)
    (hreach : system.Reachable good adapters queue w s)
    : ∃ a, system.Simulates adapters s a ∧ Inv queue a ∧ w.db.Follows a.world.db := by
  have hinit : Inv queue ⟨w, []⟩ := by
    constructor
    case toQueued => exact hqueued
    case threads_mem => simp
    case sound => exact hsound
    case phases => simp
    case announced =>
      exact fun channel testId passed failed hevent => absurd hevent (hpub channel testId passed failed)
  apply system.reachable_invariant (P := fun a => Inv queue a ∧ w.db.Follows a.world.db) _ _ hreach
  . exact ⟨hinit, .refl _⟩
  . intro a l a' h hstep
    obtain ⟨hinv, hfollows⟩ := inv_step h.1 hstep
    exact ⟨hinv, h.2.trans hfollows⟩

/--
Whatever the tasks do from a reachable state on, with any failures and redeliveries, the rows of the
later state follow those of the earlier one, and its tables are sound.
-/
theorem follows_of_run {good : Env → Prop} {w : World} {s s' : system.State serde}
    (hqueued : Queued queue w.db) (hsound : w.db.Sound)
    (hpub : ∀ channel testId passed failed,
      (channel, Event.testFinished testId passed failed) ∉ w.published)
    (hreach : system.Reachable good adapters queue w s)
    (hrun : system.Run good adapters queue (fun _ _ => True) s s')
    : s'.world.db.Sound ∧ s.world.db.Follows s'.world.db := by
  obtain ⟨a, hsim, ha, -⟩ := exists_inv hqueued hsound hpub hreach
  obtain ⟨a', hsim', hinv, hfollows⟩ := system.run_invariant
    (P := fun a' => Inv queue a' ∧ a.world.db.Follows a'.world.db)
    (fun _ _ _ _ _ _ h hstep => ⟨(inv_step h.1 hstep).1, h.2.trans (inv_step h.1 hstep).2⟩)
    hsim ⟨ha, .refl _⟩ hrun
  rw [hsim.world, hsim'.world]
  exact ⟨hinv.sound, hfollows⟩

/--
In every reachable state, with any failures and redeliveries, an end that was announced on some channel
was announced on the channel of the test, the test is closed and was started, and the numbers in the
event add up to its subtasks.
-/
theorem announced_of_reachable {good : Env → Prop} {w : World} {s : system.State serde}
    (hqueued : Queued queue w.db) (hsound : w.db.Sound)
    (hpub : ∀ channel testId passed failed,
      (channel, Event.testFinished testId passed failed) ∉ w.published)
    (hlt : ∀ testId, (w.db.subtasksOf testId).length < 2 ^ 31)
    (hreach : system.Reachable good adapters queue w s)
    : ∀ channel testId passed failed,
        (channel, Event.testFinished testId passed failed) ∈ s.world.published →
        channel = .test testId
          ∧ (∀ test ∈ s.world.db.tests, test.id = testId →
              test.status.closed = true ∧ test.startedAt ≠ none ∧ test.finishedAt ≠ none)
          ∧ passed.toNat + failed.toNat = (s.world.db.subtasksOf testId).length := by
  intro channel testId passed failed hevent
  obtain ⟨a, hsim, ha, hfollows⟩ := exists_inv hqueued hsound hpub hreach
  rw [hsim.world] at hevent ⊢
  have hend := ha.announced channel testId passed failed hevent
  refine ⟨hend.channel_eq, ?_, ?_⟩
  . intro test htest hid
    have hclosed := hend.closed test htest hid
    have htimes := ha.sound.tests test htest
    refine ⟨hclosed, ?_, htimes.closed.mp hclosed⟩
    intro hnone
    rw [htimes.pending.mpr hnone] at hclosed
    cases hclosed
  . apply hend.sum
    have hlength := hlt testId
    rw [hfollows.length_subtasksOf]
    omega

theorem labSound : probe.labWorld.db.Sound := by
  constructor
  case tests =>
    intro test htest
    cases List.mem_singleton.mp htest
    constructor <;> decide
  case subtasks =>
    intro row hrow
    cases List.mem_singleton.mp hrow
    constructor <;> decide
  case pending => decide
  case closed => decide

theorem labReachable
    : system.Reachable Env.Faultless probe.labRegistry [closeOut.labEntry] probe.labWorld
        ⟨probe.labWorld, [(closeOut.labEntry,
          tick.task tick.labSerde probe.labRegistry closeOut.labEntry.delivery)]⟩ :=
  .tail .refl ⟨_, .spawn closeOut.labEntry ⟨by simp, by decide⟩⟩

set_option maxRecDepth 10000 in
theorem follows_of_run_lab
    : ∃ s s' : system.State tick.labSerde,
        (∃ test ∈ s.world.db.tests, test.status = .pending)
          ∧ (∃ test ∈ s'.world.db.tests, test.status = .finished)
          ∧ s'.world.db.Sound ∧ s.world.db.Follows s'.world.db := by
  have hrun : system.Run Env.Faultless probe.labRegistry [closeOut.labEntry] (fun _ _ => True) _ _ :=
    system.run_stop probe.labEnv_faultless closeOut.labEntry 20
      (tick.task tick.labSerde probe.labRegistry closeOut.labEntry.delivery) probe.labWorld []
      (by intro m _; split <;> trivial)
  refine ⟨_, _, ?_, ?_, follows_of_run closeOut.labCreated.toQueued labSound (by simp [probe.labWorld])
    labReachable hrun⟩
  . exact ⟨_, List.mem_singleton.mpr rfl, rfl⟩
  . rw [closeOut.labEntry.task_eq]
    exact ⟨_, List.mem_singleton.mpr rfl, rfl⟩

set_option maxRecDepth 10000 in
theorem announced_of_reachable_lab
    : ∃ s : system.State tick.labSerde,
        (Channel.test 1, Event.testFinished 1 1 0) ∈ s.world.published
          ∧ (∀ test ∈ s.world.db.tests, test.id = 1 →
              test.status.closed = true ∧ test.startedAt ≠ none ∧ test.finishedAt ≠ none)
          ∧ 1 = (s.world.db.subtasksOf 1).length := by
  have hinit : system.Reachable Env.Faultless probe.labRegistry [closeOut.labEntry] probe.labWorld
      (system.init probe.labWorld) := .refl
  have hreach := system.reachable_run hinit probe.labEnv_faultless
    (⟨by simp, by decide⟩ : system.Deliverable _ _ closeOut.labEntry)
  have hlt : ∀ testId, (probe.labWorld.db.subtasksOf testId).length < 2 ^ 31 := by
    intro testId
    apply Nat.lt_of_le_of_lt (List.length_filter_le _ _)
    decide
  have hevent : (Channel.test 1, Event.testFinished 1 1 0) ∈
      ((tick.task tick.labSerde probe.labRegistry closeOut.labEntry.delivery).run probe.labEnv.exec
        probe.labWorld).2.published := by
    rw [closeOut.labEntry.task_eq]
    exact .tail _ (.head _)
  have hend := announced_of_reachable closeOut.labCreated.toQueued labSound (by simp [probe.labWorld]) hlt
    hreach _ _ _ _ hevent
  exact ⟨_, hevent, hend.2⟩

end lifecycle

end PqCas
